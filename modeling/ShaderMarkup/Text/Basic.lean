import ShaderMarkup.Text.Character

/-!
# Text

Source text is a list of characters.  A position in it is a number of characters, so offsets,
lengths and columns need no notion of encoding.  This module holds the operations that do not
depend on what the text means: trimming, words, lines, and the search for a word inside a text.
-/

namespace ShaderMarkup

/-- Text is a list of characters; a position counts characters. -/
abbrev Text := List Char

namespace Text

/-! ## Trimming -/

/-- The text from its first character that is not white space. -/
def trimLeft (text : Text) : Text :=
  text.dropWhile isBlank

/-- The text up to its last character that is not white space. -/
def trimRight : Text → Text
  | [] => []
  | c :: rest =>
      match trimRight rest with
      | [] => if isBlank c then [] else [c]
      | kept => c :: kept

/-- The text without the white space at both ends. -/
def trim (text : Text) : Text :=
  trimRight (trimLeft text)

/-- Whether the text holds nothing but white space. -/
def blank (text : Text) : Bool :=
  text.all isBlank

theorem takeWhile_append_trimLeft (text : Text) :
    text.takeWhile isBlank ++ trimLeft text = text :=
  List.takeWhile_append_dropWhile

theorem trimRight_append (text : Text) :
    ∃ blanks, trimRight text ++ blanks = text ∧ blanks.all isBlank := by
  induction text with
  | nil => exact ⟨[], rfl, rfl⟩
  | cons c rest ih =>
      obtain ⟨blanks, happend, hblanks⟩ := ih
      rw [trimRight]
      split
      next hnil =>
        rw [hnil] at happend
        split
        next hc => exact ⟨c :: rest, rfl, by simp_all⟩
        next => exact ⟨blanks, by simpa using happend, hblanks⟩
      next => exact ⟨blanks, by simpa using happend, hblanks⟩

/-! ## Words and lines -/

/-- The maximal runs of characters that are not white space, from left to right. -/
def words : Text → List Text
  | [] => []
  | c :: rest =>
      if isBlank c then words rest
      else
        match rest, words rest with
        | next :: _, first :: others =>
            if isBlank next then [c] :: first :: others else (c :: first) :: others
        | _, others => [c] :: others

/-- The words of the text with one space between neighbours. -/
def collapse (text : Text) : Text :=
  [' '].intercalate (words text)

/-- Puts a character in front of the first text of a list. -/
def onFirst (c : Char) : List Text → List Text
  | [] => [[c]]
  | first :: others => (c :: first) :: others

@[simp] theorem flatten_onFirst (c : Char) (texts : List Text) :
    (onFirst c texts).flatten = c :: texts.flatten := by
  cases texts <;> rfl

/-- The pieces of the text between the separators; one piece more than there are separators. -/
def splitAll (separates : Char → Bool) : Text → List Text
  | [] => [[]]
  | c :: rest =>
      if separates c then [] :: splitAll separates rest else onFirst c (splitAll separates rest)

/-- The lines of the text, without their line ends. -/
def lines (text : Text) : List Text :=
  splitAll (· == '\n') text

/-- The lines joined by line ends. -/
def unlines (rows : List Text) : Text :=
  ['\n'].intercalate rows

/-- The texts joined by a comma and a space. -/
def listing (items : List Text) : Text :=
  [',', ' '].intercalate items

/-! ## Searching -/

/-- Whether `word` stands somewhere in the text. -/
def includes (word : Text) : Text → Bool
  | [] => word.isEmpty
  | c :: rest => word.isPrefixOf (c :: rest) || includes word rest

/-- Whether the text ends with `word`. -/
def endsWith (text word : Text) : Bool :=
  word.reverse.isPrefixOf text.reverse

/-- The one-based number of the line that the character at `offset` stands on. -/
def lineAt (text : Text) (offset : Nat) : Nat :=
  (text.take offset).count '\n' + 1

/-- The position that an offset means; a negative offset counts from the end of the text. -/
def position (text : Text) (offset : Int) : Nat :=
  if offset < 0 then (text.length + offset).toNat else offset.toNat

/-! ## Sets of names -/

/-- Whether the name is one of the list. -/
def among (names : List Text) (name : Text) : Bool :=
  names.contains name

/-- Adds a name to a list of names in increasing order of code points, unless it is there. -/
def insertName (name : Text) : List Text → List Text
  | [] => [name]
  | first :: others =>
      if name < first then name :: first :: others
      else if name = first then first :: others
      else first :: insertName name others

/-- The names in increasing order, each once. -/
def nameSet (names : List Text) : List Text :=
  names.foldr insertName []

end Text

end ShaderMarkup
