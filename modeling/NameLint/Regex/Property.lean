/-
Character properties by name.

A property escape names a property, a general category or a script, with case, blanks,
hyphens and underscores set aside, and with a leading `is` if there is one.  With a value,
the name has to be that of a property, and the value one of its own.
-/
import NameLint.Regex.Error
import NameLint.Regex.Syntax
import NameLint.Unicode.Changing
import NameLint.Unicode.Script

namespace NameLint.Regex

/-! ### Loose names -/

/-- Whether a name starts with `is` in either case. -/
def startsWithIs : List Char → Bool
  | a :: b :: _ => (a = 'i' || a = 'I') && (b = 's' || b = 'S')
  | _ => false

/-- The name in lower case, without what loose comparison sets aside. -/
def looseName (name : List Char) : String :=
  let startsIs := startsWithIs name
  let kept := (if startsIs then name.drop 2 else name).filter fun c =>
    c.toNat < 0x80 && c ≠ ' ' && c ≠ '_' && c ≠ '-'
  let lower := kept.map Char.toLower
  String.ofList (if startsIs ∧ lower = ['c'] then ['i', 's', 'c'] else lower)

/-- The value of the first entry one of whose names is the given one. -/
def findNamed {α : Type} (table : List (List String × α)) (name : String) : Option α :=
  (table.find? fun entry => entry.1.contains name).map Prod.snd

/-! ### Tables of names -/

open Property in
/-- The properties that a character has or lacks. -/
def binaryProperties : List (List String × CharSet) :=
  [(["asciihexdigit", "ahex"], asciiHexDigit), (["alphabetic", "alpha"], alphabetic),
    (["bidicontrol", "bidic"], bidiControl), (["bidimirrored", "bidim"], bidiMirrored),
    (["caseignorable", "ci"], caseIgnorable), (["cased"], cased),
    (["changeswhencasefolded", "cwcf"], changesWhenCasefolded),
    (["changeswhencasemapped", "cwcm"], changesWhenCasemapped),
    (["changeswhenlowercased", "cwl"], changesWhenLowercased),
    (["changeswhentitlecased", "cwt"], changesWhenTitlecased),
    (["changeswhenuppercased", "cwu"], changesWhenUppercased), (["dash"], dash),
    (["defaultignorablecodepoint", "di"], defaultIgnorableCodePoint),
    (["deprecated", "dep"], deprecated), (["diacritic", "dia"], diacritic), (["emoji"], emoji),
    (["emojicomponent", "ecomp"], emojiComponent), (["emojimodifier", "emod"], emojiModifier),
    (["emojimodifierbase", "ebase"], emojiModifierBase),
    (["emojipresentation", "epres"], emojiPresentation),
    (["extendedpictographic", "extpict"], extendedPictographic), (["extender", "ext"], extender),
    (["graphemebase", "grbase"], graphemeBase), (["graphemeextend", "grext"], graphemeExtend),
    (["graphemelink", "grlink"], graphemeLink), (["hexdigit", "hex"], hexDigit),
    (["hyphen"], hyphen), (["idsbinaryoperator", "idsb"], idsBinaryOperator),
    (["idstrinaryoperator", "idst"], idsTrinaryOperator), (["idcontinue", "idc"], idContinue),
    (["idstart", "ids"], idStart), (["ideographic", "ideo"], ideographic),
    (["joincontrol", "joinc"], joinControl),
    (["logicalorderexception", "loe"], logicalOrderException), (["lowercase", "lower"], lowercase),
    (["math"], math), (["noncharactercodepoint", "nchar"], noncharacterCodePoint),
    (["otheralphabetic", "oalpha"], extraAlphabetic),
    (["otherdefaultignorablecodepoint", "odi"], extraDefaultIgnorable),
    (["othergraphemeextend", "ogrext"], extraGraphemeExtend),
    (["otheridcontinue", "oidc"], extraIdContinue), (["otheridstart", "oids"], extraIdStart),
    (["otherlowercase", "olower"], extraLowercase), (["othermath", "omath"], extraMath),
    (["otheruppercase", "oupper"], extraUppercase), (["patternsyntax", "patsyn"], patternSyntax),
    (["patternwhitespace", "patws"], patternWhiteSpace),
    (["prependedconcatenationmark", "pcm"], prependedConcatenationMark),
    (["quotationmark", "qmark"], quotationMark), (["radical"], radical),
    (["regionalindicator", "ri"], regionalIndicator),
    (["sentenceterminal", "sterm"], sentenceTerminal), (["softdotted", "sd"], softDotted),
    (["terminalpunctuation", "term"], terminalPunctuation),
    (["unifiedideograph", "uideo"], unifiedIdeograph), (["uppercase", "upper"], uppercase),
    (["variationselector", "vs"], variationSelector),
    (["whitespace", "wspace", "space"], whiteSpace), (["xidcontinue", "xidc"], xidContinue),
    (["xidstart", "xids"], xidStart)]

open Category in
/-- The general categories and their unions; the surrogates have a name but no characters. -/
def categories : List (List String × Option CharSet) :=
  [(["any"], some .all), (["assigned"], some assigned), (["ascii"], some (.range 0 0x7F)),
    (["other", "c"], some other), (["control", "cc", "cntrl"], some control),
    (["format", "cf"], some format), (["unassigned", "cn"], some unassigned),
    (["privateuse", "co"], some privateUse), (["surrogate", "cs"], none),
    (["letter", "l"], some letter), (["casedletter", "lc"], some casedLetter),
    (["lowercaseletter", "ll"], some lowercaseLetter),
    (["modifierletter", "lm"], some modifierLetter),
    (["otherletter", "lo"], some otherLetter), (["titlecaseletter", "lt"], some titlecaseLetter),
    (["uppercaseletter", "lu"], some uppercaseLetter), (["mark", "m", "combiningmark"], some mark),
    (["spacingmark", "mc"], some spacingMark), (["enclosingmark", "me"], some enclosingMark),
    (["nonspacingmark", "mn"], some nonspacingMark), (["number", "n"], some number),
    (["decimalnumber", "nd", "digit"], some decimalNumber),
    (["letternumber", "nl"], some letterNumber), (["othernumber", "no"], some otherNumber),
    (["punctuation", "p", "punct"], some punctuation),
    (["connectorpunctuation", "pc"], some connectorPunctuation),
    (["dashpunctuation", "pd"], some dashPunctuation),
    (["closepunctuation", "pe"], some closePunctuation),
    (["finalpunctuation", "pf"], some finalPunctuation),
    (["initialpunctuation", "pi"], some initialPunctuation),
    (["otherpunctuation", "po"], some otherPunctuation),
    (["openpunctuation", "ps"], some openPunctuation), (["symbol", "s"], some symbol),
    (["currencysymbol", "sc"], some currencySymbol),
    (["modifiersymbol", "sk"], some modifierSymbol),
    (["mathsymbol", "sm"], some mathSymbol), (["othersymbol", "so"], some otherSymbol),
    (["separator", "z"], some separator), (["lineseparator", "zl"], some lineSeparator),
    (["paragraphseparator", "zp"], some paragraphSeparator),
    (["spaceseparator", "zs"], some spaceSeparator)]

/-- The scripts that have a name but no characters of their own. -/
def emptyScripts : List String :=
  ["unknown", "zzzz", "katakanaorhiragana", "hrkt"]

/-- The characters of a script, by the set that `chars` gives; none for a script without a name. -/
def scriptSet? (chars : Script → CharSet) (name : String) : Option (Except PatternError CharSet) :=
  match Script.all.find? fun s => s.names.contains name with
  | some s => some (.ok (chars s))
  | none => if emptyScripts.contains name then some (.error .propertyValueUnknown) else none

/-- The names of all properties whose values are neither true nor false. -/
def valuedProperties : List String :=
  ["age", "bc", "bidiclass", "bidimirroringglyph", "bidipairedbracket", "bidipairedbrackettype",
    "blk", "block", "bmg", "bpb", "bpt", "canonicalcombiningclass", "casefolding", "ccc", "ce",
    "cf", "changeswhennfkccasefolded", "cjkaccountingnumeric", "cjkcompatibilityvariant",
    "cjkiicore", "cjkirggsource", "cjkirghsource", "cjkirgjsource", "cjkirgkpsource",
    "cjkirgksource", "cjkirgmsource", "cjkirgssource", "cjkirgtsource", "cjkirguksource",
    "cjkirgusource", "cjkirgvsource", "cjkothernumeric", "cjkprimarynumeric", "cjkrsunicode",
    "compex", "compositionexclusion", "cwkcf", "decompositionmapping", "decompositiontype", "dm",
    "dt", "ea", "eastasianwidth", "equivalentunifiedideograph", "equideo", "expandsonnfc",
    "expandsonnfd", "expandsonnfkc", "expandsonnfkd", "fcnfkc", "fcnfkcclosure",
    "fullcompositionexclusion", "gc", "gcb", "generalcategory", "graphemeclusterbreak",
    "hangulsyllabletype", "hst", "incb", "indicconjunctbreak", "indicpositionalcategory",
    "indicsyllabiccategory", "inpc", "insc", "isc", "isocomment", "jamoshortname", "jg",
    "joininggroup", "joiningtype", "jsn", "jt", "kaccountingnumeric", "kcompatibilityvariant",
    "kiicore", "kirggsource", "kirghsource", "kirgjsource", "kirgkpsource", "kirgksource",
    "kirgmsource", "kirgssource", "kirgtsource", "kirguksource", "kirgusource", "kirgvsource",
    "kothernumeric", "kprimarynumeric", "krsunicode", "lb", "lc", "linebreak",
    "lowercasemapping", "na", "na1", "name", "namealias", "nfcqc", "nfcquickcheck", "nfdqc",
    "nfdquickcheck", "nfkccasefold", "nfkccf", "nfkcqc", "nfkcquickcheck", "nfkcscf",
    "nfkcsimplecasefold", "nfkdqc", "nfkdquickcheck", "nt", "numerictype", "numericvalue", "nv",
    "sb", "sc", "scf", "script", "scriptextensions", "scx", "sentencebreak", "sfc",
    "simplecasefolding", "simplelowercasemapping", "simpletitlecasemapping",
    "simpleuppercasemapping", "slc", "stc", "suc", "tc", "titlecasemapping", "uc", "unicode1name",
    "unicoderadicalstroke", "uppercasemapping", "urs", "verticalorientation", "vo", "wb",
    "wordbreak", "xonfc", "xonfd", "xonfkc", "xonfkd"]

/-! ### Queries -/

/-- The characters of a category; a fault of the value if it is no category, or one that is
never met. -/
def categorySet (name : String) : Except PatternError CharSet :=
  match (findNamed categories name).join with
  | some s => .ok s
  | none => .error .propertyValueUnknown

/-- The characters that a bare name stands for. -/
def namedSet (name : String) : Except PatternError CharSet :=
  match findNamed binaryProperties name with
  | some s => .ok s
  | none =>
    if (findNamed categories name).isSome then categorySet name
    else (scriptSet? Script.charSet name).getD (.error .propertyUnknown)

/-- The characters with the given value of a property. -/
def valuedSet (name value : String) : Except PatternError CharSet :=
  if name = "gc" ∨ name = "generalcategory" then categorySet value
  else if name = "sc" ∨ name = "script" then
    (scriptSet? Script.charSet value).getD (.error .propertyValueUnknown)
  else if name = "scx" ∨ name = "scriptextensions" then
    (scriptSet? Script.extendedSet value).getD (.error .propertyValueUnknown)
  else if valuedProperties.contains name ∨ (findNamed binaryProperties name).isSome then
    .error .propertyValueUnknown
  else .error .propertyUnknown

/-- The characters that a property escape asks for. -/
def PropertyQuery.charSet : PropertyQuery → Except PatternError CharSet
  | .letter c => namedSet (looseName [c])
  | .named name => namedSet (looseName name)
  | .valued name value => valuedSet (looseName name) (looseName value)

end NameLint.Regex
