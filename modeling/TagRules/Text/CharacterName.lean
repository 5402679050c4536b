import TagRules.Number.Decimal
import TagRules.Text.CharacterName.Abugidas
import TagRules.Text.CharacterName.Alias
import TagRules.Text.CharacterName.Alphabets
import TagRules.Text.CharacterName.Hieroglyphs
import TagRules.Text.CharacterName.OldScripts
import TagRules.Text.CharacterName.Pictures
import TagRules.Text.CharacterName.Syllables
import TagRules.Text.CharacterName.Symbols
import TagRules.Text.CodeRanges

/-!
Characters by name. Most names are listed in rows, in the order of the characters. A name in a row may
repeat words of the one before it: a small letter in front stands for as many of its first words as the
letter counts, and a small letter at the end for as many of its last words. The names of ideographs, dot
patterns and composed syllables follow rules.
-/
namespace TagRules.CharacterName

/-- The number of words that a small letter stands for. -/
def ditto? (c : Char) : Option Nat := if 'a' ≤ c ∧ c ≤ 'z' then some (c.toNat - 96) else none

def words (cs : List Char) : List String := if cs.isEmpty then [] else (String.ofList cs).splitOn " "

/-- The words of a name as a row gives it, behind an earlier name. -/
def wordsAfter (earlier : List String) (given : List Char) : List String :=
  let (first, rest) := match given.head?.bind ditto? with
    | some n => (n, given.tail)
    | none => (0, given)
  let (last, own) := match rest.getLast?.bind ditto? with
    | some n => (n, rest.dropLast)
    | none => (0, rest)
  earlier.take first ++ words own ++ earlier.drop (earlier.length - last)

/-- The code of a name in a row, given the name before the row's next one and the code of that. Codes
without a name have an empty place. -/
def codeIn? (name : List String) : List String → List String → Nat → Option Nat
  | [], _, _ => none
  | given :: rest, earlier, code =>
    if given.isEmpty then codeIn? name rest earlier (code + 1) else
    let here := wordsAfter earlier given.toList
    if here = name then some code else codeIn? name rest here (code + 1)

def listed? (name : String) : Option Nat :=
  [alphabets, abugidas, symbols, syllables, oldScripts, hieroglyphs, pictures].flatten.findSome? fun (code, lines) =>
    codeIn? (name.splitOn " ") (lines.flatMap (·.splitOn ",")) [] code

def alias? (name : String) : Option Nat :=
  (aliases.find? fun (_, names) => (names.splitOn ",").contains name).map (·.1)

/-- The ideographs whose names end in their codes. -/
def ideographs : CodeRanges := [
  (0x3400, 0x4DBF), (0x4E00, 0x9FFF), (0x20000, 0x2A6DF), (0x2A700, 0x2B738), (0x2B740, 0x2B81D),
  (0x2B820, 0x2CEA1), (0x2CEB0, 0x2EBE0), (0x30000, 0x3134A)]

/-- Other characters whose names end in their codes. -/
def codedNames : List (String × CodeRanges) := [
  ("CJK COMPATIBILITY IDEOGRAPH-", [(0xF900, 0xFA6D), (0xFA70, 0xFAD9), (0x2F800, 0x2FA1D)]),
  ("KHITAN SMALL SCRIPT CHARACTER-", [(0x18B00, 0x18CD5)]),
  ("NUSHU CHARACTER-", [(0x1B170, 0x1B2FB)])]

def behind? (beginning name : String) : Option (List Char) :=
  if beginning.toList.isPrefixOf name.toList then some (name.toList.drop beginning.length) else none

/-- A code in capital digits of base sixteen. -/
def capitalCode? (digits : List Char) : Option Nat :=
  if digits.any Char.isLower then none else ofDigits? 16 digits

def ideograph? (digits : List Char) : Option Nat :=
  if digits.length = 4 ∨ digits.length = 5 then (capitalCode? digits).filter ideographs.contains else none

/-- The code in a name that ends in it, without zeros in front. -/
def coded? (name : String) : Option Nat :=
  codedNames.findSome? fun (beginning, ranges) => do
    let digits ← behind? beginning name
    if digits.head? = some '0' then none else (capitalCode? digits).filter ranges.contains

/-- A pattern of dots, each of which counts twice as much as the one before. -/
def dots? (name : String) : Option Nat := do
  let digits ← behind? "BRAILLE PATTERN DOTS-" name
  let shown := ['1', '2', '3', '4', '5', '6', '7', '8'].filter digits.contains
  if digits.isEmpty || shown ≠ digits then none
  else some (0x2800 + (digits.foldl (fun n d => n + 1 <<< (d.toNat - 49)) 0))

/-- A mark that selects a variant, by its number. -/
def variant? (name : String) : Option Nat := do
  let digits ← behind? "VS" name
  let n ← ofDigits? 10 digits
  if digits.length > 3 || digits.head? = some '0' || !digits.all Char.isDigit then none
  else if n ≤ 16 then some (0xFE00 + n - 1)
  else if n ≤ 256 then some (0xE0100 + n - 17)
  else none

/-- The sounds that a composed syllable begins with. -/
def openings : List String :=
  ["G", "GG", "N", "D", "DD", "R", "M", "B", "BB", "S", "SS", "", "J", "JJ", "C", "K", "T", "P", "H"]

def vowels : List String :=
  ["A", "AE", "YA", "YAE", "EO", "E", "YEO", "YE", "O", "WA", "WAE", "OE", "YO", "U", "WEO", "WE", "WI", "YU", "EU",
   "YI", "I"]

/-- The sounds that a composed syllable ends with. -/
def closings : List String :=
  ["", "G", "GG", "GS", "N", "NJ", "NH", "D", "L", "LG", "LM", "LB", "LS", "LT", "LP", "LH", "M", "B", "BS", "S", "SS",
   "NG", "J", "C", "K", "T", "P", "H"]

def isVowelLetter (c : Char) : Bool := ['A', 'E', 'I', 'O', 'U', 'W', 'Y'].contains c

def syllable? (sounds : List Char) : Option Nat := do
  let rest := sounds.dropWhile (!isVowelLetter ·)
  let opening ← openings.idxOf? (.ofList (sounds.takeWhile (!isVowelLetter ·)))
  let vowel ← vowels.idxOf? (.ofList (rest.takeWhile isVowelLetter))
  let closing ← closings.idxOf? (.ofList (rest.dropWhile isVowelLetter))
  return 0xAC00 + (opening * vowels.length + vowel) * closings.length + closing

/-- The code of the character with a name. Small letters count as capitals, but not in the names of
ideographs and composed syllables. -/
def code? (name : String) : Option Nat :=
  match behind? "HANGUL SYLLABLE " name with
  | some sounds => syllable? sounds
  | none => match behind? "CJK UNIFIED IDEOGRAPH-" name with
    | some digits => ideograph? digits
    | none =>
      let capitals := String.ofList (name.toList.map Char.toUpper)
      (listed? capitals).or ((alias? capitals).or ((coded? capitals).or ((dots? capitals).or (variant? capitals))))

end TagRules.CharacterName
