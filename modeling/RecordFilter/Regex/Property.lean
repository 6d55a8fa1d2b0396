import RecordFilter.Unicode.Age
import RecordFilter.Unicode.Break
import RecordFilter.Unicode.CaseMap
import RecordFilter.Unicode.Property
import RecordFilter.Unicode.Script

set_option autoImplicit false

/-!
# Named properties of characters

Patterns name sets of characters by a property that a character has or has not, by a general
category, by a script, or by a property and one of its values. Names are compared without regard to
case, blanks, underscores, hyphens and a leading "is".
-/

namespace RecordFilter.Regex.Property

open Unicode
open Unicode (CharSet)

/-! ## Names -/

/-- A name without what does not matter in names. -/
def relevant (name : List Char) : List Char :=
  (name.filter fun c => c.toNat < 128 && c ≠ ' ' && c ≠ '_' && c ≠ '-').map Char.toLower

/-- A name in the form in which names are compared. The abbreviation of the property of comments
is the only name that starts with "is" and keeps it. -/
def normalize (name : String) : String :=
  match name.toList with
  | i :: s :: rest =>
    if i.toLower = 'i' && s.toLower = 's' then
      let short := relevant rest
      String.ofList (if short = ['c'] then ['i', 's', 'c'] else short)
    else String.ofList (relevant (i :: s :: rest))
  | short => String.ofList (relevant short)

/-- The entry of which the name is one of the names. -/
def find? {α : Type} (name : String) (entries : List (List String × α)) : Option α :=
  (entries.find? fun entry => entry.1.any fun known => normalize known == name).map (·.2)

/-! ## Properties -/

/-- The properties that a character has or has not, each with its names. -/
def properties : List (List String × CharSet) :=
  [(["ASCII_Hex_Digit", "AHex"], .ofRanges [('0', '9'), ('A', 'F'), ('a', 'f')]),
   (["Alphabetic", "Alpha"], alphabetic),
   (["Bidi_Control", "Bidi_C"], bidiControl),
   (["Bidi_Mirrored", "Bidi_M"], bidiMirrored),
   (["Case_Ignorable", "CI"], caseIgnorable),
   (["Cased"], cased),
   (["Changes_When_Casefolded", "CWCF"], changesWhenCasefolded),
   (["Changes_When_Casemapped", "CWCM"], changesWhenCasemapped),
   (["Changes_When_Lowercased", "CWL"], changesWhenLowercased),
   (["Changes_When_Titlecased", "CWT"], changesWhenTitlecased),
   (["Changes_When_Uppercased", "CWU"], changesWhenUppercased),
   (["Dash"], dash),
   (["Default_Ignorable_Code_Point", "DI"], defaultIgnorable),
   (["Deprecated", "Dep"], deprecated),
   (["Diacritic", "Dia"], diacritic),
   (["Emoji"], emoji),
   (["Emoji_Component", "EComp"], emojiComponent),
   (["Emoji_Modifier", "EMod"], emojiModifier),
   (["Emoji_Modifier_Base", "EBase"], emojiModifierBase),
   (["Emoji_Presentation", "EPres"], emojiPresentation),
   (["Extended_Pictographic", "ExtPict"], extendedPictographic),
   (["Extender", "Ext"], extender),
   (["Grapheme_Base", "Gr_Base"], graphemeBase),
   (["Grapheme_Extend", "Gr_Ext"], graphemeExtend),
   (["Grapheme_Link", "Gr_Link"], graphemeLink),
   (["Hex_Digit", "Hex"], hexDigit),
   (["Hyphen"], hyphen),
   (["IDS_Binary_Operator", "IDSB"], idsBinaryOperator),
   (["IDS_Trinary_Operator", "IDST"], idsTrinaryOperator),
   (["IDS_Unary_Operator", "IDSU"], idsUnaryOperator),
   (["ID_Compat_Math_Continue"], idCompatMathContinue),
   (["ID_Compat_Math_Start"], idCompatMathStart),
   (["ID_Continue", "IDC"], idContinue),
   (["ID_Start", "IDS"], idStart),
   (["Ideographic", "Ideo"], ideographic),
   (["Join_Control", "Join_C"], joinControl),
   (["Logical_Order_Exception", "LOE"], logicalOrderException),
   (["Lowercase", "Lower"], lowercaseChars),
   (["Math"], math),
   (["Modifier_Combining_Mark", "MCM"], modifierCombiningMark),
   (["Noncharacter_Code_Point", "NChar"], noncharacter),
   (["Other_Alphabetic", "OAlpha"], otherAlphabetic),
   (["Other_Default_Ignorable_Code_Point", "ODI"], otherDefaultIgnorable),
   (["Other_Grapheme_Extend", "OGr_Ext"], otherGraphemeExtend),
   (["Other_ID_Continue", "OIDC"], otherIdContinue),
   (["Other_ID_Start", "OIDS"], otherIdStart),
   (["Other_Lowercase", "OLower"], otherLowercase),
   (["Other_Math", "OMath"], otherMath),
   (["Other_Uppercase", "OUpper"], otherUppercase),
   (["Pattern_Syntax", "Pat_Syn"], patternSyntax),
   (["Pattern_White_Space", "Pat_WS"], patternWhiteSpace),
   (["Prepended_Concatenation_Mark", "PCM"], prependedConcatenationMark),
   (["Quotation_Mark", "QMark"], quotationMark),
   (["Radical"], radical),
   (["Regional_Indicator", "RI"], regionalIndicator),
   (["Sentence_Terminal", "STerm"], sentenceTerminal),
   (["Soft_Dotted", "SD"], softDotted),
   (["Terminal_Punctuation", "Term"], terminalPunctuation),
   (["Unified_Ideograph", "UIdeo"], unifiedIdeograph),
   (["Uppercase", "Upper"], uppercaseChars),
   (["Variation_Selector", "VS"], variationSelector),
   (["White_Space", "WSpace", "space"], whiteSpace),
   (["XID_Continue", "XIDC"], closedIdContinue),
   (["XID_Start", "XIDS"], closedIdStart)]

/-! ## General categories -/

/-- The names of the categories and of groups of categories, each with the abbreviations that it
stands for. -/
def categoryNames : List (List String × List String) :=
  [(["Cased_Letter", "LC"], ["Lu", "Ll", "Lt"]),
   (["Close_Punctuation", "Pe"], ["Pe"]),
   (["Connector_Punctuation", "Pc"], ["Pc"]),
   (["Control", "Cc", "cntrl"], ["Cc"]),
   (["Currency_Symbol", "Sc"], ["Sc"]),
   (["Dash_Punctuation", "Pd"], ["Pd"]),
   (["Decimal_Number", "Nd", "digit"], ["Nd"]),
   (["Enclosing_Mark", "Me"], ["Me"]),
   (["Final_Punctuation", "Pf"], ["Pf"]),
   (["Format", "Cf"], ["Cf"]),
   (["Initial_Punctuation", "Pi"], ["Pi"]),
   (["Letter", "L"], ["Lu", "Ll", "Lt", "Lm", "Lo"]),
   (["Letter_Number", "Nl"], ["Nl"]),
   (["Line_Separator", "Zl"], ["Zl"]),
   (["Lowercase_Letter", "Ll"], ["Ll"]),
   (["Mark", "M", "Combining_Mark"], ["Mn", "Mc", "Me"]),
   (["Math_Symbol", "Sm"], ["Sm"]),
   (["Modifier_Letter", "Lm"], ["Lm"]),
   (["Modifier_Symbol", "Sk"], ["Sk"]),
   (["Nonspacing_Mark", "Mn"], ["Mn"]),
   (["Number", "N"], ["Nd", "Nl", "No"]),
   (["Open_Punctuation", "Ps"], ["Ps"]),
   (["Other", "C"], ["Cc", "Cf", "Cn", "Co"]),
   (["Other_Letter", "Lo"], ["Lo"]),
   (["Other_Number", "No"], ["No"]),
   (["Other_Punctuation", "Po"], ["Po"]),
   (["Other_Symbol", "So"], ["So"]),
   (["Paragraph_Separator", "Zp"], ["Zp"]),
   (["Private_Use", "Co"], ["Co"]),
   (["Punctuation", "P", "punct"], ["Pc", "Pd", "Ps", "Pe", "Pi", "Pf", "Po"]),
   (["Separator", "Z"], ["Zs", "Zl", "Zp"]),
   (["Space_Separator", "Zs"], ["Zs"]),
   (["Spacing_Mark", "Mc"], ["Mc"]),
   (["Symbol", "S"], ["Sm", "Sc", "Sk", "So"]),
   (["Titlecase_Letter", "Lt"], ["Lt"]),
   (["Unassigned", "Cn"], ["Cn"]),
   (["Uppercase_Letter", "Lu"], ["Lu"])]

/-- The set that a category's normalized name stands for. -/
def ofCategory? (name : String) : Option CharSet :=
  if name = "any" then some .all
  else if name = "assigned" then some (withCategories [.unassigned]).complement
  else if name = "ascii" then some (.range '\x00' '\x7f')
  else (find? name categoryNames).map fun codes => withCategories (codes.map Category.ofCode)

/-! ## Scripts -/

/-- The code of the script with a normalized name; that of characters without a script is none. -/
def scriptCode? (name : String) : Option String :=
  (find? name (scriptNames.map fun (code, names) => (code :: names, code))).filter (· ≠ "Zzzz")

/-! ## Versions and boundaries -/

/-- The names of a version, which write its two numbers with a point or after a letter. -/
def versionNames (version : String) : List String :=
  [version, String.ofList (version.toList.tail.map fun c => if c = '_' then '.' else c)]

/-- The version with a normalized name. -/
def version? (name : String) : Option String :=
  find? name (versions.map fun version => (versionNames version, version))

/-- The kinds of characters at the bounds of units, each with its names. -/
def unitBreaks : List (List String × CharSet) :=
  [(["Control", "CN"], UnitBreak.control), (["CR"], .single '\r'),
   (["Extend", "EX"], UnitBreak.extend), (["L"], UnitBreak.leading), (["LF"], .single '\n'),
   (["LV"], UnitBreak.openSyllable), (["LVT"], UnitBreak.closedSyllable),
   (["Prepend", "PP"], UnitBreak.prepend), (["Regional_Indicator", "RI"], regionalIndicator),
   (["SpacingMark", "SM"], UnitBreak.spacingMark), (["T"], UnitBreak.trailing),
   (["V"], UnitBreak.vowel), (["ZWJ"], UnitBreak.joiner)]

/-- The kinds of characters at the bounds of words, each with its names. -/
def wordBreaks : List (List String × CharSet) :=
  [(["ALetter", "LE"], WordBreak.letter), (["CR"], .single '\r'),
   (["Double_Quote", "DQ"], .single '"'), (["Extend"], WordBreak.extend),
   (["ExtendNumLet", "EX"], WordBreak.connector), (["Format", "FO"], WordBreak.format),
   (["Hebrew_Letter", "HL"], WordBreak.hebrewLetter), (["Katakana", "KA"], WordBreak.katakana),
   (["LF"], .single '\n'), (["MidLetter", "ML"], WordBreak.midLetter),
   (["MidNum", "MN"], WordBreak.midNumber), (["MidNumLet", "MB"], WordBreak.midNumberLetter),
   (["Newline", "NL"], WordBreak.newline), (["Numeric", "NU"], WordBreak.numeric),
   (["Regional_Indicator", "RI"], regionalIndicator), (["Single_Quote", "SQ"], .single '\''),
   (["WSegSpace"], WordBreak.blank), (["ZWJ"], UnitBreak.joiner)]

/-- The kinds of characters at the bounds of sentences, each with its names. -/
def sentenceBreaks : List (List String × CharSet) :=
  [(["ATerm", "AT"], SentenceBreak.fullStop), (["CR"], .single '\r'),
   (["Close", "CL"], SentenceBreak.bracket), (["Extend", "EX"], SentenceBreak.extend),
   (["Format", "FO"], SentenceBreak.format), (["LF"], .single '\n'),
   (["Lower", "LO"], SentenceBreak.lower), (["Numeric", "NU"], SentenceBreak.numeric),
   (["OLetter", "LE"], SentenceBreak.otherLetter), (["SContinue", "SC"], SentenceBreak.inside),
   (["STerm", "ST"], SentenceBreak.terminal), (["Sep", "SE"], SentenceBreak.separator),
   (["Sp", "SP"], SentenceBreak.blank), (["Upper", "UP"], SentenceBreak.upper)]

/-! ## Lookup -/

/-- The set that a name stands for: a property, a category or a script. -/
def ofName? (name : String) : Option CharSet :=
  let name := normalize name
  (find? name properties).orElse fun _ => (ofCategory? name).orElse fun _ =>
    (scriptCode? name).map withScript

/-- The properties with many values, each with its names and the set of the characters with the
value of a normalized name. -/
def valuedProperties : List (List String × (String → Option CharSet)) :=
  [(["General_Category", "gc"], ofCategory?),
   (["Script", "sc"], fun value => (scriptCode? value).map withScript),
   (["Script_Extensions", "scx"], fun value => (scriptCode? value).map usedWithScript),
   (["Age"], fun value => (version? value).map presentIn),
   (["Grapheme_Cluster_Break", "GCB"], fun value => find? value unitBreaks),
   (["Word_Break", "WB"], fun value => find? value wordBreaks),
   (["Sentence_Break", "SB"], fun value => find? value sentenceBreaks)]

/-- The set of the characters for which a property of many values has the value given. -/
def ofValue? (property value : String) : Option CharSet :=
  (find? (normalize property) valuedProperties).bind fun having => having (normalize value)

end RecordFilter.Regex.Property
