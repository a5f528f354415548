import Wording.Plain.Command.Usage
import Wording.Plain.Similarity

/-!
The words of a command line: switches, some of which take a value, and operands. Switches have long names
behind two hyphens and short ones, a single character behind one; short ones can stand together. The values
of switches follow in the same word or are the next one. Two hyphens alone end the switches.
-/

set_option autoImplicit false

namespace Wording.Plain.Command

/-- A switch: what it stands for, its names, and whether it takes a value. -/
structure Switch (K : Type) where
  key : K
  names : List Text
  takesValue : Bool

/-- The switches of a command line with their values, in order, and the operands. -/
structure Words (K : Type) where
  switches : List (K × Text)
  operands : List Text

/-- What one word holds: switches, and perhaps a last one, by its name, whose value is the next word. -/
structure WordReading (K : Type) where
  switches : List (K × Text)
  awaiting : Option (K × Text)

namespace Switch

variable {K : Type}

def named? (switches : List (Switch K)) (name : Text) : Option (Switch K) :=
  switches.find? fun s => s.names.contains name

def longNames (switches : List (Switch K)) : List Text :=
  (switches.flatMap (·.names)).filter (Text.beginsWith ['-', '-'])

/-- Reads short names that stand together behind one hyphen. A name that takes a value takes all that
follows it. -/
def readShort (switches : List (Switch K)) : Text → Except UsageFault (WordReading K)
  | [] => .ok ⟨[], none⟩
  | c :: cs =>
    match named? switches ['-', c] with
    | none => .error (.noSuchOption ['-', c] [])
    | some s =>
      if s.takesValue then
        if cs = [] then .ok ⟨[], some (s.key, ['-', c])⟩ else .ok ⟨[(s.key, cs)], none⟩
      else do
        let more ← readShort switches cs
        pure ⟨(s.key, []) :: more.switches, more.awaiting⟩

/-- Reads a long name with what is attached to it behind an equals sign, if anything is. -/
def readLong (s : Switch K) (name : Text) : Option Text → Except UsageFault (WordReading K)
  | none => if s.takesValue then .ok ⟨[], some (s.key, name)⟩ else .ok ⟨[(s.key, [])], none⟩
  | some value =>
    if s.takesValue then .ok ⟨[(s.key, value)], none⟩ else .error (.valueUnexpected name)

/-- Reads a word that begins with a hyphen and does not end there. -/
def readWord (switches : List (Switch K)) (word : Text) : Except UsageFault (WordReading K) :=
  if Text.beginsWith ['-', '-'] word then
    let (name, attached) :=
      match Text.cutAt? ['='] word with
      | some (name, value) => (name, some value)
      | none => (word, none)
    match named? switches name with
    | some s => readLong s name attached
    | none => .error (.noSuchOption name (closest name (longNames switches)))
  else readShort switches (word.drop 1)

def isSwitchWord (word : Text) : Bool := word.head? = some '-' && 1 < word.length

/-- Reads words for switches and operands. If switches must not follow operands, the first operand ends
them. -/
def readWords (switches : List (Switch K)) (mixed : Bool) : List Text → Except UsageFault (Words K)
  | [] => .ok ⟨[], []⟩
  | word :: rest =>
    if word = ['-', '-'] then .ok ⟨[], rest⟩
    else if isSwitchWord word then do
      let reading ← readWord switches word
      match reading.awaiting, rest with
      | none, rest => do
        let more ← readWords switches mixed rest
        pure ⟨reading.switches ++ more.switches, more.operands⟩
      | some (_, name), [] => .error (.valueMissing name)
      | some (key, _), value :: rest => do
        let more ← readWords switches mixed rest
        pure ⟨reading.switches ++ (key, value) :: more.switches, more.operands⟩
    else if mixed then do
      let more ← readWords switches mixed rest
      pure ⟨more.switches, word :: more.operands⟩
    else .ok ⟨[], word :: rest⟩

end Switch

namespace Words

variable {K : Type} [BEq K]

/-- The keys that occur, by their first occurrence. -/
def keys (w : Words K) : List K := Text.firstSeen (w.switches.map (·.1))

def last? (w : Words K) (key : K) : Option Text :=
  (w.switches.reverse.find? fun s => s.1 == key).map (·.2)

def has (w : Words K) (key : K) : Bool := (w.last? key).isSome

def all (w : Words K) (key : K) : List Text :=
  (w.switches.filter fun s => s.1 == key).map (·.2)

end Words

end Wording.Plain.Command
