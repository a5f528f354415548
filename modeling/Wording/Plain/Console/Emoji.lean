import Wording.Plain.Console.EmojiNames
import Wording.Text.Lowercase
import Wording.Tokens.Pattern

/-!
Emoji written by their names between colons. A hyphen and a word behind the name ask for the emoji as text
or as a picture. Names are read without regard to letter case, and a name that no emoji has stays as it is.
-/

set_option autoImplicit false

namespace Wording.Plain.Console

def numberOfHex (t : Text) : Nat :=
  t.foldl (fun n c => n * 16 + (if c.isDigit then c.toNat - '0'.toNat else c.toNat - 'A'.toNat + 10)) 0

/-- The characters whose code points stand in a text with hyphens between them. -/
def charactersOf (codes : Text) : Text :=
  (Text.splitOnChar '-' codes).map fun code => Char.ofNat (numberOfHex code)

/-- The words of some lines by twos: each name with what stands behind it. -/
def pairsOf (lines : List String) : List (Text × Text) :=
  lines.flatMap fun line => byTwos (Text.splitOnChar ' ' line.toList)
where
  byTwos : List Text → List (Text × Text)
    | name :: what :: rest => (name, what) :: byTwos rest
    | _ => []

/-- The flag of a country by the letters of the country. -/
def flagOf (letters : Text) : Text :=
  letters.map fun c => Char.ofNat ('🇦'.toNat + (c.toNat - 'A'.toNat))

def skinTones : List (String × Char) :=
  [("light", '🏻'), ("medium-light", '🏼'), ("medium", '🏽'), ("medium-dark", '🏾'), ("dark", '🏿')]

/-- An emoji with a tone of skin behind its first character, which is then shown as a picture without being asked. -/
def withTone (tone : Char) : Text → Text
  | c :: '\uFE0F' :: rest => c :: tone :: rest
  | c :: rest => c :: tone :: rest
  | [] => []

/-- All emoji by their names. -/
def emojiTable : List (Text × Text) :=
  let flags := (pairsOf countryNames).flatMap fun (name, letters) =>
    [(name, flagOf letters), ("flag_for_".toList ++ name, flagOf letters)]
  let toned := (pairsOf tonedEmojiNames).flatMap fun (name, codes) =>
    (name, charactersOf codes) :: skinTones.map fun (tone, mark) =>
      (name ++ ['_'] ++ tone.toList ++ "_skin_tone".toList, withTone mark (charactersOf codes))
  flags ++ toned ++ (pairsOf otherEmojiNames).map fun (name, codes) => (name, charactersOf codes)

def emojiOf? (name : Text) : Option Text :=
  (emojiTable.find? fun entry => entry.1 = name).map (·.2)

/-- A name between colons: the name, the mark that its variant puts behind the emoji, and the text behind
the second colon. -/
structure EmojiName where
  name : Text
  mark : Text
  rest : Text

/-- The end of a name: a colon, perhaps with a variant before it. -/
def emojiNameEnd? (t : Text) : Option EmojiName :=
  match Text.dropBeginning? "-text:".toList t, Text.dropBeginning? "-emoji:".toList t, t with
  | some rest, _, _ => some ⟨[], ['\uFE0E'], rest⟩
  | none, some rest, _ => some ⟨[], ['\uFE0F'], rest⟩
  | none, none, ':' :: rest => some ⟨[], [], rest⟩
  | none, none, _ => none

/-- The shortest name at the beginning of a text; a name has no white space in it. -/
def emojiName? : Text → Option EmojiName
  | [] => none
  | c :: cs =>
    match emojiNameEnd? (c :: cs) with
    | some found => some found
    | none =>
      if Text.isBlank c then none
      else (emojiName? cs).map fun found => { found with name := c :: found.name }

/-- Takes a name between colons and answers its emoji, or what it has taken. -/
def emojiCode : Tokens.Pattern := fun _ t =>
  match t with
  | ':' :: behind =>
    (emojiName? behind).map fun found =>
      match emojiOf? (Text.lower found.name) with
      | some emoji => ⟨emoji ++ found.mark, found.rest⟩
      | none => ⟨t.take (t.length - found.rest.length), found.rest⟩
  | _ => none

/-- A text with the emoji in the place of their names. -/
def withEmoji (t : Text) : Text := emojiCode.replace t

end Wording.Plain.Console
