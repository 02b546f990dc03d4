import ResourceRouting.Regex.CharSet
import ResourceRouting.Unicode.Script

/-!
# Named sets of characters

The sets that an expression refers to by a name: digits, spaces and word characters, the ASCII
classes in double brackets, and the properties of the Unicode character database.
-/

namespace ResourceRouting
namespace Regex
namespace CharSet

/-- ASCII digits. -/
def asciiDigits : CharSet := range '0' '9'

/-- ASCII letters. -/
def asciiLetters : CharSet := union (range 'A' 'Z') (range 'a' 'z')

/-- ASCII white space: the space and the controls from tab to carriage return. -/
def asciiSpaces : CharSet := runs [⟨9, 13⟩, ⟨32, 32⟩]

/-- ASCII letters, digits and the underscore. -/
def asciiWords : CharSet := union (union asciiDigits asciiLetters) (single '_')

/-- Decimal digits. -/
def digits : CharSet := runs Unicode.Category.decimalNumber.runs

/-- White space. -/
def spaces : CharSet := runs Unicode.Property.whiteSpaceRuns

/-- Characters of words. -/
def words : CharSet :=
  runs (Unicode.Property.alphabeticRuns ++ Unicode.Category.nonspacingMark.runs ++
    Unicode.Category.spacingMark.runs ++ Unicode.Category.enclosingMark.runs ++
    Unicode.Category.decimalNumber.runs ++ Unicode.Category.connectorPunctuation.runs ++
    [⟨0x200c, 0x200d⟩])

/-- The ASCII class of a name. -/
def asciiClass? (name : String) : Option CharSet :=
  match name with
  | "alnum" => some (union asciiDigits asciiLetters)
  | "alpha" => some asciiLetters
  | "ascii" => some (runs [⟨0, 127⟩])
  | "blank" => some (runs [⟨9, 9⟩, ⟨32, 32⟩])
  | "cntrl" => some (runs [⟨0, 31⟩, ⟨127, 127⟩])
  | "digit" => some asciiDigits
  | "graph" => some (range '!' '~')
  | "lower" => some (range 'a' 'z')
  | "print" => some (range ' ' '~')
  | "punct" => some (runs [⟨33, 47⟩, ⟨58, 64⟩, ⟨91, 96⟩, ⟨123, 126⟩])
  | "space" => some asciiSpaces
  | "upper" => some (range 'A' 'Z')
  | "word" => some asciiWords
  | "xdigit" => some (runs [⟨48, 57⟩, ⟨65, 70⟩, ⟨97, 102⟩])
  | _ => Option.none

/-- Names are compared without spaces, hyphens, underscores and case, and without a leading `is`. -/
def normalName (name : List Char) : String :=
  let kept := fun (text : List Char) => String.ofList
    ((text.filter fun character =>
      character.toNat < 128 && character ≠ ' ' && character ≠ '_' && character ≠ '-').map
        Char.toLower)
  match name with
  | first :: second :: rest =>
      if first.toLower = 'i' && second.toLower = 's' then
        if kept rest = "c" then "isc" else kept rest
      else
        kept name
  | _ => kept name

/-- The characters of some general categories. -/
def categories (members : List Unicode.Category) : CharSet :=
  runs (members.flatMap Unicode.Category.runs)

/-- The set of a general category, or of a union of several, by its normal name. -/
def category? (name : String) : Option CharSet :=
  match name with
  | "any" => some all
  | "ascii" => some (runs [⟨0, 127⟩])
  | "assigned" => some (compl (categories [.unassigned]))
  | "c" | "other" =>
      some (categories [.control, .format, .surrogate, .privateUse, .unassigned])
  | "l" | "letter" =>
      some (categories
        [.uppercaseLetter, .lowercaseLetter, .titlecaseLetter, .modifierLetter, .otherLetter])
  | "lc" | "casedletter" =>
      some (categories [.uppercaseLetter, .lowercaseLetter, .titlecaseLetter])
  | "m" | "mark" | "combiningmark" =>
      some (categories [.nonspacingMark, .spacingMark, .enclosingMark])
  | "n" | "number" => some (categories [.decimalNumber, .letterNumber, .otherNumber])
  | "p" | "punctuation" | "punct" =>
      some (categories
        [.connectorPunctuation, .dashPunctuation, .openPunctuation, .closePunctuation,
         .initialPunctuation, .finalPunctuation, .otherPunctuation])
  | "s" | "symbol" =>
      some (categories [.mathSymbol, .currencySymbol, .modifierSymbol, .otherSymbol])
  | "z" | "separator" =>
      some (categories [.spaceSeparator, .lineSeparator, .paragraphSeparator])
  | _ =>
      ((Unicode.Category.all.filter (· ≠ .surrogate)).find? (·.names.contains name)).map
        fun found => categories [found]

/-- The set of a script, by its normal name. -/
def script? (name : String) : Option CharSet :=
  (Unicode.Script.all.find? (·.names.contains name)).map fun script => runs script.runs

/-- Characters that can begin an identifier. -/
def identifierStarts : CharSet :=
  diff
    (union
      (categories
        [.uppercaseLetter, .lowercaseLetter, .titlecaseLetter, .modifierLetter, .otherLetter,
         .letterNumber])
      (runs (Unicode.Run.readLines ["1885-1886 2118 212e 309b-309c"])))
    (single '\u2e2f')

/-- Characters that can stand in an identifier. -/
def identifierParts : CharSet :=
  union identifierStarts
    (union
      (categories [.nonspacingMark, .spacingMark, .decimalNumber, .connectorPunctuation])
      (runs (Unicode.Run.readLines ["b7 387 1369-1371 19da 200c-200d 30fb ff65"])))

/-- The characters that a change to a normal form turns into ones no identifier can hold. -/
def unstableParts : CharSet :=
  runs (Unicode.Run.readLines
    ["37a 309b-309c fc5e-fc63 fdfa-fdfb fe70 fe72 fe74 fe76 fe78 fe7a fe7c fe7e"])

/-- Characters that are visible, or the space, and do not continue the one before them. -/
def graphemeBases : CharSet :=
  diff
    (compl (categories
      [.control, .format, .surrogate, .privateUse, .unassigned, .lineSeparator,
       .paragraphSeparator]))
    (runs Unicode.Property.graphemeExtendRuns)

/--
The set of a property that characters have or lack, by its normal name.  An expression with one of
the remaining properties is refused: `Diacritic`, `Extender`, `Extended_Pictographic`,
`Grapheme_Link`, `Modifier_Combining_Mark`, `Sentence_Terminal`, `Terminal_Punctuation`, and those
whose names begin with `Changes_When`, `ID_Compat_Math` or `Other`.
-/
def binaryProperty? (name : String) : Option CharSet :=
  match name with
  | "idstart" | "ids" => some identifierStarts
  | "idcontinue" | "idc" => some identifierParts
  | "xidstart" | "xids" =>
      some (diff (diff identifierStarts unstableParts)
        (runs (Unicode.Run.readLines ["e33 eb3 ff9e-ff9f"])))
  | "xidcontinue" | "xidc" => some (diff identifierParts unstableParts)
  | "graphemebase" | "grbase" => some graphemeBases
  | _ => (Unicode.Property.all.find? (·.names.contains name)).map fun found => runs found.runs

/-- The set of a property given by its name alone. -/
def property? (name : List Char) : Option CharSet :=
  let normal := normalName name
  ((binaryProperty? normal).or (category? normal)).or (script? normal)

/--
The set of the characters whose property has a value.  Of the properties with more than two values
the general category and the script are read; an expression with an age, a script extension or a
kind of grapheme, word or sentence break is refused.
-/
def propertyValue? (property value : List Char) : Option CharSet :=
  match normalName property with
  | "generalcategory" | "gc" => category? (normalName value)
  | "script" | "sc" => script? (normalName value)
  | _ => Option.none

end CharSet
end Regex
end ResourceRouting
