import RecordFilter.Unicode.Current

set_option autoImplicit false

/-!
# Joined letters

In some scripts the letters of a word are joined. The sets here say, as of Unicode 17.0, which
characters join the next one, which join the one before, and over which the joint passes.
Characters that have a plain form count as that.
-/

namespace RecordFilter.Unicode

/-- Characters that join the next one. -/
def joiningNext : CharSet := .ofText
  "620 626 628 62a-62e 633-63f 641-647 649-64a 66e-66f 679-687 69a-6bf 6c1-6c2 6cc 6ce 6d0-6d1
   6fa-6fc 6ff 712-714 71a-71d 71f-727 729 72b 72d-72e 74e-758 75c-76a 76d-770 772 775-777 77a-77f
   7ca-7ea 841-845 848 84a-853 855 860 862-865 868 886 889-88d 88f 8a0-8a9 8af-8b0 8b3-8b8 8ba-8c8
   1807 1820-1878 1887-18a8 18aa a840-a872 fb52-fb81 fb8e-fba3 fba6-fbad fbd3-fbd6 fbe4-fbe9
   fbf6-fc36 fc38-fc5a fc5d fc66-fc69 fc6c-fc6f fc72-fc75 fc78-fc7f fc81-fc87 fc89 fc8c-fc90
   fc93-fcf1 fcf5-fd0c fd11-fd28 fd2d-fd3b fd50-fd8f fd92-fdc7 fdf2 fdf5-fdf9 fdfc fe89-fe8c
   fe8f-fe92 fe95-fea8 feb1-feec feef-fef4 10ac0-10ac4 10acd 10ad3-10adc 10ade-10ae0 10aeb-10aee
   10b80 10b82 10b86-10b88 10b8a-10b8b 10b8d 10b90 10bad-10bae 10d00-10d21 10d23 10ec3-10ec4
   10ec6-10ec7 10f30-10f32 10f34-10f44 10f51-10f53 10f70-10f73 10f76-10f81 10fb0 10fb2-10fb3 10fb8
   10fbb-10fbc 10fbe-10fbf 10fc1 10fc4 10fca-10fcb 1e900-1e943 1ee01-1ee02 1ee07-1ee12 1ee14-1ee17
   1ee19-1ee1f 1ee21-1ee22 1ee24 1ee27 1ee29-1ee32 1ee34-1ee37 1ee39 1ee3b 1ee42 1ee47 1ee49 1ee4b
   1ee4d-1ee4f 1ee51-1ee52 1ee54 1ee57 1ee59 1ee5b 1ee5d 1ee5f 1ee61-1ee62 1ee64 1ee67-1ee6a
   1ee6c-1ee72 1ee74-1ee77 1ee79-1ee7c 1ee7e 1ee81-1ee82 1ee84 1ee87-1ee89 1ee8b-1ee92 1ee94-1ee97
   1ee99-1ee9b 1eea1-1eea2 1eea7-1eea9 1eeab-1eeb2 1eeb4-1eeb7 1eeb9-1eebb"

/-- Characters that join the one before. -/
def joiningPrevious : CharSet :=
  (joiningNext.difference (.ofText "a872 10acd 10ad7 10d00 10fcb")).union (.ofText
    "622-625 627 629 62f-632 648 671-673 675-678 688-699 6c0 6c3-6cb 6cd 6cf 6d2-6d3 6d5 6ee-6ef
     710 715-719 71e 728 72a 72c 72f 74d 759-75b 76b-76c 771 773-774 778-779 840 846-847 849 854
     856-858 867 869-86a 870-882 88e 8aa-8ac 8ae 8b1-8b2 8b9 fb50-fb51 fb82-fb8d fba4-fba5
     fbae-fbb1 fbd7-fbe3 fbea-fbf5 fc37 fc5b-fc5c fc64-fc65 fc6a-fc6b fc70-fc71 fc76-fc77 fc80
     fc88 fc8a-fc8b fc91-fc92 fd0d-fd10 fd29-fd2c fd3c-fd3d fdf0-fdf1 fdf3-fdf4 fe81-fe88
     fe8d-fe8e fe93-fe94 fea9-feb0 feed-feee fef5-fefc 10ac5 10ac7 10ac9-10aca 10ace-10ad2 10add
     10ae1 10ae4 10aef 10b81 10b83-10b85 10b89 10b8c 10b8e-10b8f 10b91 10ba9-10bac 10d22 10ec2
     10f33 10f54 10f74-10f75 10fb4-10fb6 10fb9-10fba 10fbd 10fc2-10fc3 10fc9 1ee00 1ee03
     1ee05-1ee06 1ee13 1ee18 1ee80 1ee83 1ee85-1ee86 1ee93 1ee98 1eea3 1eea5-1eea6 1eeb3 1eeb8")

/-- Characters over which a joint passes. -/
def joiningThrough : CharSet :=
  .unions [withCategories [.nonspacingMark, .enclosingMark], Current.newGraphemeExtend,
    .ofText "1e94b"]

end RecordFilter.Unicode
