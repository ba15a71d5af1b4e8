import Mathlib.Data.List.TakeWhile
import FoodDelivery.Lib.Numeral

/-- The values of JSON. The fields of an object stand in the order in which
the object lists them. -/
inductive JsonValue
  | null
  | bool (value : Bool)
  | number (value : Binary64.Number)
  | string (value : String)
  | array (elements : List JsonValue)
  | object (fields : List (String × JsonValue))

namespace JsonText

open Binary64

section fields

/-- The index for which a key stands. -/
def index (key : String) : Option Nat :=
  match Numeral.readNatural key.toList with
  | some n => if Nat.toDigits 10 n = key.toList ∧ n < 2 ^ 32 - 1 then some n else none
  | none => none

/-- Indexes come first and in their order. -/
def Precedes (key other : String) : Prop :=
  match index key, index other with
  | some n, some m => n < m
  | some _, none => True
  | none, _ => False

instance (key other : String) : Decidable (Precedes key other) := by
  unfold Precedes
  split <;> infer_instance

def setField {V : Type*} (key : String) (value : V) : List (String × V) → List (String × V)
  | [] => [(key, value)]
  | (other, old) :: rest =>
    if key = other then (key, value) :: rest
    else if Precedes key other then (key, value) :: (other, old) :: rest
    else (other, old) :: setField key value rest

def setFields {V : Type*} (fields : List (String × V)) : List (String × V) :=
  fields.foldl (fun object field => setField field.1 field.2 object) []

/-- Keys in the order in which an object lists them. -/
def Listed (keys : List String) : Prop := keys.Pairwise fun earlier later => later ≠ earlier ∧ ¬ Precedes later earlier

instance (keys : List String) : Decidable (Listed keys) := inferInstanceAs (Decidable (List.Pairwise _ _))

end fields

section strings

/-- The control characters with a letter of their own. -/
def letters : List (Char × Char) := [('\x08', 'b'), ('\t', 't'), ('\n', 'n'), ('\x0C', 'f'), ('\r', 'r')]

def escape (c : Char) : List Char :=
  if c = '"' ∨ c = '\\' then ['\\', c]
  else
    match letters.lookup c with
    | some letter => ['\\', letter]
    | none =>
      if c.toNat < 32 then ['\\', 'u', '0', '0', (c.toNat / 16).digitChar, (c.toNat % 16).digitChar] else [c]

def quote (text : String) : List Char := '"' :: (text.toList.flatMap escape ++ ['"'])

/-- The UTF-16 code units of a character. -/
def units (c : Char) : List Nat :=
  if c.toNat < 0x10000 then [c.toNat] else [0xD800 + (c.toNat - 0x10000) / 0x400, 0xDC00 + (c.toNat - 0x10000) % 0x400]

def isHigh (unit : Nat) : Bool := 0xD800 ≤ unit ∧ unit < 0xDC00

def isLow (unit : Nat) : Bool := 0xDC00 ≤ unit ∧ unit < 0xE000

/-- A surrogate alone is no character. -/
def single (unit : Nat) : Char := if isHigh unit ∨ isLow unit then '\uFFFD' else .ofNat unit

def ofUnits : List Nat → List Char
  | [] => []
  | [unit] => [single unit]
  | high :: low :: rest =>
    if isHigh high ∧ isLow low then .ofNat (0x10000 + (high - 0xD800) * 0x400 + (low - 0xDC00)) :: ofUnits rest
    else single high :: ofUnits (low :: rest)

def unescape (letter : Char) : Option Char :=
  if letter = '"' ∨ letter = '\\' ∨ letter = '/' then some letter
  else (letters.find? fun pair => pair.2 = letter).map Prod.fst

def code (a b c d : Char) : Option Nat := do
  let a ← Hexadecimal.value a
  let b ← Hexadecimal.value b
  let c ← Hexadecimal.value c
  let d ← Hexadecimal.value d
  some (0x1000 * a + 0x100 * b + 0x10 * c + d)

/-- A string behind its first quote, and what follows it. -/
def readUnits : List Char → Option (List Nat × List Char)
  | '\\' :: 'u' :: a :: b :: c :: d :: rest => do
    let unit ← code a b c d
    (readUnits rest).map fun read => (unit :: read.1, read.2)
  | '\\' :: letter :: rest => do
    let c ← unescape letter
    (readUnits rest).map fun read => (units c ++ read.1, read.2)
  | '"' :: rest => some ([], rest)
  | c :: rest => if c.toNat < 32 then none else (readUnits rest).map fun read => (units c ++ read.1, read.2)
  | [] => none

def readString (text : List Char) : Option (String × List Char) :=
  (readUnits text).map fun read => (.ofList (ofUnits read.1), read.2)

end strings

section numbers

def scanSign : List Char → List Char × List Char
  | '-' :: rest => (['-'], rest)
  | rest => ([], rest)

def scanWhole (text : List Char) : Option (List Char × List Char) :=
  let digits := text.takeWhile Char.isDigit
  if digits = [] ∨ digits.head? = some '0' ∧ digits.length ≠ 1 then none else some (digits, text.dropWhile Char.isDigit)

def scanDigits (before text : List Char) : Option (List Char × List Char) :=
  let digits := text.takeWhile Char.isDigit
  if digits = [] then none else some (before ++ digits, text.dropWhile Char.isDigit)

def scanFraction : List Char → Option (List Char × List Char)
  | '.' :: rest => scanDigits ['.'] rest
  | rest => some ([], rest)

def scanExponent : List Char → Option (List Char × List Char)
  | [] => some ([], [])
  | mark :: rest =>
    if mark = 'e' ∨ mark = 'E' then
      match rest with
      | '+' :: rest => scanDigits [mark, '+'] rest
      | '-' :: rest => scanDigits [mark, '-'] rest
      | rest => scanDigits [mark] rest
    else some ([], mark :: rest)

def scanNumber (text : List Char) : Option (Number × List Char) := do
  let (sign, text) := scanSign text
  let (whole, text) ← scanWhole text
  let (fraction, text) ← scanFraction text
  let (exponent, text) ← scanExponent text
  some (Numeral.read (sign ++ (whole ++ (fraction ++ exponent))), text)

end numbers

section values

def writeNumber : Number → List Char
  | .finite x => Numeral.write (.finite x)
  | _ => "null".toList

mutual

/-- `JSON.stringify`. -/
def write : JsonValue → List Char
  | .null => "null".toList
  | .bool value => (if value then "true" else "false").toList
  | .number value => writeNumber value
  | .string value => quote value
  | .array [] => ['[', ']']
  | .array (element :: elements) => '[' :: (write element ++ writeMore elements)
  | .object [] => ['{', '}']
  | .object ((key, value) :: fields) => '{' :: (quote key ++ ':' :: (write value ++ writeFields fields))

def writeMore : List JsonValue → List Char
  | [] => [']']
  | element :: elements => ',' :: (write element ++ writeMore elements)

def writeFields : List (String × JsonValue) → List Char
  | [] => ['}']
  | (key, value) :: fields => ',' :: (quote key ++ ':' :: (write value ++ writeFields fields))

end

def isBlank (c : Char) : Bool := c = ' ' ∨ c = '\t' ∨ c = '\n' ∨ c = '\r'

def skip (text : List Char) : List Char := text.dropWhile isBlank

def literal (word text : List Char) : Option (List Char) :=
  if word.isPrefixOf text then some (text.drop word.length) else none

def readKey (text : List Char) : Option (String × List Char) :=
  match skip text with
  | '"' :: text => do
    let (key, text) ← readString text
    match skip text with
    | ':' :: text => some (key, text)
    | _ => none
  | _ => none

mutual

/-- A value at the start of a text, and what follows it. Every call consumes
a character, so that there is no need for more calls than characters. -/
def readValue : Nat → List Char → Option (JsonValue × List Char)
  | 0, _ => none
  | calls + 1, text =>
    match skip text with
    | [] => none
    | c :: text =>
      if c = '"' then (readString text).map fun read => (.string read.1, read.2)
      else if c = '[' then
        match skip text with
        | ']' :: text => some (.array [], text)
        | text => do
          let (element, text) ← readValue calls text
          let (elements, text) ← readMore calls text
          some (.array (element :: elements), text)
      else if c = '{' then
        match skip text with
        | '}' :: text => some (.object [], text)
        | text => do
          let (key, text) ← readKey text
          let (value, text) ← readValue calls text
          let (fields, text) ← readFields calls text
          some (.object (setFields ((key, value) :: fields)), text)
      else if c = 't' then (literal "rue".toList text).map fun text => (.bool true, text)
      else if c = 'f' then (literal "alse".toList text).map fun text => (.bool false, text)
      else if c = 'n' then (literal "ull".toList text).map fun text => (.null, text)
      else (scanNumber (c :: text)).map fun read => (.number read.1, read.2)

def readMore : Nat → List Char → Option (List JsonValue × List Char)
  | 0, _ => none
  | calls + 1, text =>
    match skip text with
    | ']' :: text => some ([], text)
    | ',' :: text => do
      let (element, text) ← readValue calls text
      let (elements, text) ← readMore calls text
      some (element :: elements, text)
    | _ => none

def readFields : Nat → List Char → Option (List (String × JsonValue) × List Char)
  | 0, _ => none
  | calls + 1, text =>
    match skip text with
    | '}' :: text => some ([], text)
    | ',' :: text => do
      let (key, text) ← readKey text
      let (value, text) ← readValue calls text
      let (fields, text) ← readFields calls text
      some ((key, value) :: fields, text)
    | _ => none

end

/-- `JSON.parse`, which throws where it gives nothing. -/
def parse (text : String) : Option JsonValue := do
  let (value, rest) ← readValue (text.toList.length + 1) text.toList
  if skip rest = [] then some value else none

def stringify (value : JsonValue) : String := .ofList (write value)

end values

section strings

variable {c : Char} {rest : List Char}

theorem valid (c : Char) : c.toNat < 0xD800 ∨ 0xDFFF < c.toNat ∧ c.toNat < 0x110000 := c.valid

theorem single_toNat (c : Char) : single c.toNat = c := by
  have scalar := valid c
  have alone : ¬ (isHigh c.toNat ∨ isLow c.toNat) := by
    simp only [isHigh, isLow, decide_eq_true_eq]
    omega
  rw [single, if_neg alone, Char.ofNat_toNat]

theorem ofUnits_units (c : Char) (rest : List Nat) : ofUnits (units c ++ rest) = c :: ofUnits rest := by
  have scalar := valid c
  unfold units
  split
  · have notHigh : ¬ isHigh c.toNat := by
      simp only [isHigh, decide_eq_true_eq]
      omega
    cases rest with
    | nil => simp only [List.append_nil, ofUnits, single_toNat]
    | cons unit rest =>
      rw [List.singleton_append, ofUnits, if_neg fun pair => notHigh pair.1, single_toNat]
  · have high : isHigh (0xD800 + (c.toNat - 0x10000) / 0x400) := by
      simp only [isHigh, decide_eq_true_eq]
      omega
    have low : isLow (0xDC00 + (c.toNat - 0x10000) % 0x400) := by
      simp only [isLow, decide_eq_true_eq]
      omega
    have same : 0x10000 + (0xD800 + (c.toNat - 0x10000) / 0x400 - 0xD800) * 0x400 +
        (0xDC00 + (c.toNat - 0x10000) % 0x400 - 0xDC00) = c.toNat := by omega
    rw [List.cons_append, List.singleton_append, ofUnits, if_pos ⟨high, low⟩, same, Char.ofNat_toNat]

theorem ofUnits_flatMap (text : List Char) : ofUnits (text.flatMap units) = text := by
  induction text with
  | nil => rfl
  | cons c text ih => rw [List.flatMap_cons, ofUnits_units, ih]

theorem readUnits_unescape {letter : Char} (named : letter ≠ 'u') (known : unescape letter = some c) :
    readUnits ('\\' :: letter :: rest) = (readUnits rest).map fun read => (units c ++ read.1, read.2) := by
  rw [readUnits, known]
  · rfl
  · rintro _ _ _ _ _ same
    cases same
    exact fun _ => named rfl

theorem mem_letters {letter : Char} (found : letters.lookup c = some letter) : (c, letter) ∈ letters := by
  obtain ⟨before, after, split, -⟩ := List.lookup_eq_some_iff.mp found
  rw [split]
  exact List.mem_append_right _ (List.mem_cons_self ..)

theorem code_digitChar {n : Nat} (small : n < 32) : code '0' '0' (n / 16).digitChar (n % 16).digitChar = some n := by
  have zero : Hexadecimal.value '0' = some 0 := by decide
  have high := Hexadecimal.value_digitChar (n / 16) (by omega)
  have low := Hexadecimal.value_digitChar (n % 16) (by omega)
  simp only [code, bind, zero, high, low, Option.bind_some, Option.some.injEq]
  omega

/-- An escaped character is read as its code units. -/
theorem readUnits_escape (c : Char) (rest : List Char) :
    readUnits (escape c ++ rest) = (readUnits rest).map fun read => (units c ++ read.1, read.2) := by
  unfold escape
  split
  · next quoted =>
    refine readUnits_unescape ?_ ?_
    · rintro rfl
      exact absurd quoted (by decide)
    · rw [unescape, if_pos (quoted.imp_right Or.inl)]
  · next plain =>
    split
    · next letter found =>
      have known := mem_letters found
      simp only [letters, List.mem_cons, Prod.mk.injEq, List.not_mem_nil, or_false] at known
      rcases known with ⟨rfl, rfl⟩ | ⟨rfl, rfl⟩ | ⟨rfl, rfl⟩ | ⟨rfl, rfl⟩ | ⟨rfl, rfl⟩ <;>
        exact readUnits_unescape (by decide) (by decide)
    · split
      · next control =>
        have unit : units c = [c.toNat] := if_pos (by omega)
        simp only [List.cons_append, List.nil_append, readUnits, code_digitChar control, unit, bind, Option.bind_some]
      · next visible =>
        rw [List.singleton_append, readUnits, if_neg visible]
        · rintro _ _ _ _ _ rfl
          exact absurd plain (by decide)
        · rintro _ _ rfl
          exact absurd plain (by decide)
        · rintro rfl
          exact absurd plain (by decide)

theorem readUnits_quoted (text rest : List Char) :
    readUnits (text.flatMap escape ++ '"' :: rest) = some (text.flatMap units, rest) := by
  induction text with
  | nil => rfl
  | cons c text ih => rw [List.flatMap_cons, List.append_assoc, readUnits_escape, ih, Option.map_some, List.flatMap_cons]

/-- Every string is read back from behind its first quote. -/
theorem readString_quote (text : String) (rest : List Char) :
    ∃ body, quote text ++ rest = '"' :: body ∧ readString body = some (text, rest) := by
  refine ⟨text.toList.flatMap escape ++ '"' :: rest, ?_, ?_⟩
  · rw [quote, List.cons_append, List.append_assoc, List.singleton_append]
  · rw [readString, readUnits_quoted, Option.map_some, ofUnits_flatMap, String.ofList_toList]

end strings

section fields

variable {V : Type*} {key : String} {value : V} {fields : List (String × V)}

theorem setField_last (last : ∀ field ∈ fields, key ≠ field.1 ∧ ¬ Precedes key field.1) :
    setField key value fields = fields ++ [(key, value)] := by
  induction fields with
  | nil => rfl
  | cons field rest ih =>
    obtain ⟨⟨other, later⟩, others⟩ := List.forall_mem_cons.mp last
    rw [setField, if_neg other, if_neg later, ih others, List.cons_append]

/-- Fields that stand in an object's order make the object. -/
theorem setFields_listed (listed : Listed (fields.map Prod.fst)) : setFields fields = fields := by
  have from_ (object : List (String × V)) (whole : Listed ((object ++ fields).map Prod.fst)) :
      fields.foldl (fun object field => setField field.1 field.2 object) object = object ++ fields := by
    induction fields generalizing object with
    | nil => exact (List.append_nil _).symm
    | cons field rest ih =>
      obtain ⟨key, value⟩ := field
      have last : ∀ field ∈ object, key ≠ field.1 ∧ ¬ Precedes key field.1 := by
        intro field member
        rw [Listed, List.map_append, List.pairwise_append] at whole
        exact whole.2.2 _ (List.mem_map_of_mem member) _ (List.mem_cons_self ..)
      have next : object ++ (key, value) :: rest = (object ++ [(key, value)]) ++ rest := by
        rw [List.append_assoc, List.singleton_append]
      rw [List.foldl_cons, setField_last last, next]
      exact ih (List.pairwise_cons.mp listed).2 _ (next ▸ whole)
  exact from_ [] listed

end fields

section numbers

variable {text digits rest : List Char}

/-- A text after which a number ends. -/
def Ends (rest : List Char) : Prop := ∀ c ∈ rest.head?, ¬ c.isDigit ∧ c ≠ '.' ∧ c ≠ 'e' ∧ c ≠ 'E'

theorem Ends.of_cons {c : Char} (other : ¬ c.isDigit ∧ c ≠ '.' ∧ c ≠ 'e' ∧ c ≠ 'E') : Ends (c :: rest) := by
  intro first head
  cases head
  exact other

theorem takeWhile_digits (all : ∀ c ∈ digits, c.isDigit) (ends : ∀ c ∈ rest.head?, ¬ c.isDigit) :
    (digits ++ rest).takeWhile Char.isDigit = digits ∧ (digits ++ rest).dropWhile Char.isDigit = rest := by
  rw [List.takeWhile_append_of_pos all, List.dropWhile_append_of_pos all]
  cases rest with
  | nil => exact ⟨List.append_nil _, rfl⟩
  | cons c rest =>
    have other := ends c rfl
    rw [List.takeWhile_cons_of_neg other, List.dropWhile_cons_of_neg other]
    exact ⟨List.append_nil _, rfl⟩

theorem scanDigits_append (all : ∀ c ∈ digits, c.isDigit) (some_digit : digits ≠ []) (ends : ∀ c ∈ rest.head?, ¬ c.isDigit)
    (before : List Char) : scanDigits before (digits ++ rest) = some (before ++ digits, rest) := by
  obtain ⟨taken, left⟩ := takeWhile_digits all ends
  simp only [scanDigits, taken, left]
  exact if_neg some_digit

/-- The parts of a number as the grammar has them. -/
structure Spelled (whole fraction exponent : List Char) : Prop where
  digits : ∀ c ∈ whole, c.isDigit
  some_digit : whole ≠ []
  leading : whole.head? = some '0' → whole.length = 1
  fraction : fraction = [] ∨ ∃ digits, fraction = '.' :: digits ∧ digits ≠ [] ∧ ∀ c ∈ digits, c.isDigit
  exponent : exponent = [] ∨ ∃ sign digits, exponent = 'e' :: sign :: digits ∧ (sign = '+' ∨ sign = '-') ∧ digits ≠ [] ∧
    ∀ c ∈ digits, c.isDigit

theorem scanExponent_append {exponent : List Char} (spelled : exponent = [] ∨ ∃ sign digits, exponent = 'e' :: sign :: digits ∧
    (sign = '+' ∨ sign = '-') ∧ digits ≠ [] ∧ ∀ c ∈ digits, c.isDigit) (ends : Ends rest) :
    scanExponent (exponent ++ rest) = some (exponent, rest) := by
  rcases spelled with rfl | ⟨sign, digits, rfl, signed, some_digit, all⟩
  · cases rest with
    | nil => rfl
    | cons c rest =>
      obtain ⟨-, -, lower, upper⟩ := ends c rfl
      exact if_neg (not_or.mpr ⟨lower, upper⟩)
  · have read (before : List Char) := scanDigits_append all some_digit (fun c head => (ends c head).1) before
    rcases signed with rfl | rfl
    · simp only [List.cons_append, scanExponent, true_or, if_true, read, List.nil_append]
    · simp only [List.cons_append, scanExponent, true_or, if_true, read, List.nil_append]

variable {whole fraction exponent : List Char}

theorem Spelled.scanWhole (spelled : Spelled whole fraction exponent) (ends : ∀ c ∈ rest.head?, ¬ c.isDigit) :
    scanWhole (whole ++ rest) = some (whole, rest) := by
  obtain ⟨taken, left⟩ := takeWhile_digits spelled.digits ends
  have regular : ¬ (whole = [] ∨ whole.head? = some '0' ∧ whole.length ≠ 1) := by
    rintro (empty | ⟨zero, long⟩)
    · exact spelled.some_digit empty
    · exact long (spelled.leading zero)
  simp only [JsonText.scanWhole, taken, left]
  exact if_neg regular

/-- What follows the fraction is the exponent or no part of the number. -/
theorem Spelled.after_fraction (spelled : Spelled whole fraction exponent) (ends : Ends rest) :
    ∀ c ∈ (exponent ++ rest).head?, ¬ c.isDigit ∧ c ≠ '.' := by
  rcases spelled.exponent with rfl | ⟨sign, digits, rfl, -⟩
  · exact fun c head => ⟨(ends c head).1, (ends c head).2.1⟩
  · intro c head
    cases head
    exact ⟨by decide, by decide⟩

theorem Spelled.scanFraction (spelled : Spelled whole fraction exponent) (ends : Ends rest) :
    scanFraction (fraction ++ (exponent ++ rest)) = some (fraction, exponent ++ rest) := by
  have after := spelled.after_fraction ends
  rcases spelled.fraction with rfl | ⟨digits, rfl, some_digit, all⟩
  · rw [List.nil_append]
    unfold JsonText.scanFraction
    split
    · next same =>
      rw [same] at after
      exact absurd rfl (after '.' rfl).2
    · rfl
  · exact scanDigits_append all some_digit (fun c head => (after c head).1) ['.']

/-- A number that is spelled as the grammar has it is read whole. -/
theorem Spelled.scanNumber (spelled : Spelled whole fraction exponent) {sign : List Char} (signed : sign = [] ∨ sign = ['-'])
    (ends : Ends rest) : scanNumber (sign ++ (whole ++ (fraction ++ exponent)) ++ rest) =
      some (Numeral.read (sign ++ (whole ++ (fraction ++ exponent))), rest) := by
  have after : ∀ c ∈ (fraction ++ (exponent ++ rest)).head?, ¬ c.isDigit := by
    rcases spelled.fraction with rfl | ⟨digits, rfl, -⟩
    · exact fun c head => (spelled.after_fraction ends c head).1
    · intro c head
      cases head
      decide
  have unsigned : scanSign (sign ++ (whole ++ (fraction ++ (exponent ++ rest)))) =
      (sign, whole ++ (fraction ++ (exponent ++ rest))) := by
    rcases signed with rfl | rfl
    · obtain ⟨first, others, rfl⟩ := List.exists_cons_of_ne_nil spelled.some_digit
      have digit := spelled.digits first (List.mem_cons_self ..)
      simp only [List.nil_append, List.cons_append]
      unfold scanSign
      split
      · next same =>
        cases same
        cases digit
      · rfl
    · rfl
  simp only [JsonText.scanNumber, List.append_assoc, unsigned, spelled.scanWhole after, spelled.scanFraction ends,
    scanExponent_append spelled.exponent ends, bind, Option.bind_some]

theorem layout_spelled (all : ∀ c ∈ digits, c.isDigit) (nonempty : digits ≠ []) (leading : digits.head? ≠ some '0') (point : ℤ) :
    ∃ whole fraction exponent, Numeral.layout digits point = whole ++ (fraction ++ exponent) ∧ Spelled whole fraction exponent := by
  have power : ∃ sign digits, 'e' :: (if point ≤ 0 then '-' else '+') :: Nat.toDigits 10 (point - 1).natAbs = 'e' :: sign :: digits ∧
      (sign = '+' ∨ sign = '-') ∧ digits ≠ [] ∧ ∀ c ∈ digits, c.isDigit := by
    refine ⟨_, _, rfl, ?_, Nat.toDigits_ne_nil, Numeral.isDigit_toDigits _⟩
    split
    · exact Or.inr rfl
    · exact Or.inl rfl
  have headed (more : List Char) : (digits ++ more).head? ≠ some '0' := by
    rwa [List.head?_append_of_ne_nil _ nonempty]
  unfold Numeral.layout
  split
  · refine ⟨digits ++ List.replicate (point - digits.length).toNat '0', [], [], by simp, ?_⟩
    exact {
      digits := List.forall_mem_append.mpr ⟨all, Numeral.isDigit_replicate _⟩
      some_digit := List.append_ne_nil_of_left_ne_nil nonempty _
      leading := fun zero => absurd zero (headed _)
      fraction := Or.inl rfl
      exponent := Or.inl rfl }
  · next unfilled =>
    split
    · next within =>
      refine ⟨digits.take point.toNat, '.' :: digits.drop point.toNat, [], by simp, ?_⟩
      have taken : digits.take point.toNat ≠ [] := by
        rw [Ne, List.take_eq_nil_iff]
        rintro (zero | empty)
        · omega
        · exact nonempty empty
      have left : digits.drop point.toNat ≠ [] := by
        rw [Ne, List.drop_eq_nil_iff]
        omega
      have head : (digits.take point.toNat).head? ≠ some '0' := by
        have same := @List.head?_append_of_ne_nil _ (digits.take point.toNat) (digits.drop point.toNat) taken
        rw [List.take_append_drop] at same
        rwa [← same]
      exact {
        digits := fun c member => all c (List.mem_of_mem_take member)
        some_digit := taken
        leading := fun zero => absurd zero head
        fraction := Or.inr ⟨_, rfl, left, fun c member => all c (List.mem_of_mem_drop member)⟩
        exponent := Or.inl rfl }
    · split
      · refine ⟨['0'], '.' :: (List.replicate (-point).toNat '0' ++ digits), [], by simp, ?_⟩
        exact {
          digits := List.forall_mem_singleton.mpr (by decide)
          some_digit := List.cons_ne_nil _ _
          leading := fun _ => rfl
          fraction := Or.inr ⟨_, rfl, List.append_ne_nil_of_right_ne_nil _ nonempty,
            List.forall_mem_append.mpr ⟨Numeral.isDigit_replicate _, all⟩⟩
          exponent := Or.inl rfl }
      · match digits, nonempty, all with
        | [first], _, all =>
          exact ⟨[first], [], _, rfl, {
            digits := all
            some_digit := List.cons_ne_nil _ _
            leading := fun _ => rfl
            fraction := Or.inl rfl
            exponent := Or.inr power }⟩
        | first :: second :: others, _, all =>
          obtain ⟨digit, more⟩ := List.forall_mem_cons.mp all
          exact ⟨[first], '.' :: second :: others, _, rfl, {
            digits := List.forall_mem_singleton.mpr digit
            some_digit := List.cons_ne_nil _ _
            leading := fun _ => rfl
            fraction := Or.inr ⟨_, rfl, List.cons_ne_nil _ _, more⟩
            exponent := Or.inr power }⟩

/-- The first digit of a number is not zero. -/
theorem head_toDigits {n : ℕ} (positive : 0 < n) : (Nat.toDigits 10 n).head? ≠ some '0' := by
  induction n using Nat.strongRecOn with
  | ind n ih =>
    by_cases small : n < 10
    · rw [Nat.toDigits_of_lt_base small]
      intro zero
      have digit := Nat.digitChar_eq_zero.mp (Option.some.inj zero)
      omega
    · rw [Nat.toDigits_of_base_le (by decide) (not_lt.mp small), List.head?_append_of_ne_nil _ Nat.toDigits_ne_nil]
      exact ih (n / 10) (by omega) (by omega)

theorem head_significantDigits {n : ℕ} (positive : 0 < n) : (Numeral.significantDigits n).head? ≠ some '0' := by
  obtain ⟨zeros, digits⟩ := Numeral.toDigits_eq n
  have first := head_toDigits positive
  rwa [digits, List.head?_append_of_ne_nil _ (Numeral.significantDigits_ne_nil positive)] at first

/-- Every finite number is read back from its text. -/
theorem scanNumber_write (x : Double) (ends : Ends rest) :
    scanNumber (Numeral.write (.finite x) ++ rest) = some (.finite x, rest) := by
  have back := Numeral.read_write (.finite x)
  have positive (y : ℚ) (mem : y ∈ grid) (above : 0 < y) : ∃ whole fraction exponent,
      Numeral.writePositive y = whole ++ (fraction ++ exponent) ∧ Spelled whole fraction exponent := by
    have natural : 0 < (Numeral.shortest y).1.toNat := by
      have significand := Numeral.shortest_pos mem above
      omega
    exact layout_spelled (Numeral.isDigit_significantDigits _) (Numeral.significantDigits_ne_nil natural)
      (head_significantDigits natural) _
  rw [Numeral.write] at back ⊢
  split at back
  · next zero =>
    rw [if_pos zero]
    have spelled : Spelled ['0'] [] [] := {
      digits := List.forall_mem_singleton.mpr (by decide)
      some_digit := List.cons_ne_nil _ _
      leading := fun _ => rfl
      fraction := Or.inl rfl
      exponent := Or.inl rfl }
    have scanned := spelled.scanNumber (Or.inl rfl) ends
    simp only [List.nil_append, List.append_nil] at scanned
    rw [scanned, back]
  · next nonzero =>
    rw [if_neg nonzero]
    split at back
    · next negative =>
      rw [if_pos negative]
      obtain ⟨whole, fraction, exponent, parts, spelled⟩ := positive (-x.value) (neg_mem_grid x.mem) (by linarith)
      rw [parts] at back ⊢
      have scanned := spelled.scanNumber (Or.inr rfl) ends
      rw [List.singleton_append] at scanned
      rw [scanned, back]
    · next nonnegative =>
      rw [if_neg nonnegative]
      obtain ⟨whole, fraction, exponent, parts, spelled⟩ :=
        positive x.value x.mem (lt_of_le_of_ne (not_lt.mp nonnegative) (Ne.symm nonzero))
      rw [parts] at back ⊢
      have scanned := spelled.scanNumber (Or.inl rfl) ends
      rw [List.nil_append] at scanned
      rw [scanned, back]

end numbers

section values

mutual

/-- What an object of the language can be: its fields stand in its order, and
its numbers are finite. -/
def Proper : JsonValue → Prop
  | .number value => value.isFinite
  | .array elements => ProperElements elements
  | .object fields => Listed (fields.map Prod.fst) ∧ ProperFields fields
  | _ => True

def ProperElements : List JsonValue → Prop
  | [] => True
  | element :: elements => Proper element ∧ ProperElements elements

def ProperFields : List (String × JsonValue) → Prop
  | [] => True
  | (_, value) :: fields => Proper value ∧ ProperFields fields

end

variable {rest : List Char}

theorem skip_cons {c : Char} (visible : isBlank c = false) (rest : List Char) : skip (c :: rest) = c :: rest :=
  List.dropWhile_cons_of_neg (by rw [visible]; exact Bool.false_ne_true)

theorem literal_append (word rest : List Char) : literal word (word ++ rest) = some rest := by
  have found : word.isPrefixOf (word ++ rest) := List.isPrefixOf_iff_prefix.mpr (List.prefix_append ..)
  rw [literal, if_pos found, List.drop_left]

theorem readKey_quote (key : String) (rest : List Char) : readKey (quote key ++ ':' :: rest) = some (key, rest) := by
  obtain ⟨body, text, read⟩ := readString_quote key (':' :: rest)
  rw [text, readKey, skip_cons (by decide)]
  simp only [read, bind, Option.bind_some, skip_cons (show isBlank ':' = false by decide)]

theorem write_number_head (x : Double) : ∃ c more, Numeral.write (.finite x) = c :: more ∧ (c.isDigit ∨ c = '-') := by
  have starts (y : ℚ) (mem : y ∈ grid) (above : 0 < y) : ∃ c more, Numeral.writePositive y = c :: more ∧ (c.isDigit ∨ c = '-') := by
    obtain ⟨c, more, text, digit⟩ := (Numeral.writePositive_written y (Numeral.shortest_pos mem above)).2.1
    exact ⟨c, more, text, Or.inl digit⟩
  rw [Numeral.write]
  split
  · exact ⟨'0', [], rfl, Or.inl rfl⟩
  · next nonzero =>
    split
    · exact ⟨'-', _, rfl, Or.inr rfl⟩
    · next nonnegative => exact starts x.value x.mem (lt_of_le_of_ne (not_lt.mp nonnegative) (Ne.symm nonzero))

/-- A character that begins a number begins nothing else. -/
theorem number_head_other {c : Char} (head : c.isDigit ∨ c = '-') :
    isBlank c = false ∧ c ∉ ['"', '[', '{', 't', 'f', 'n', ']', '}'] := by
  have other (d : Char) (different : ¬ (d.isDigit ∨ d = '-')) : c ≠ d := by
    rintro rfl
    exact different head
  constructor
  · simp only [isBlank, decide_eq_false_iff_not, not_or]
    exact ⟨other _ (by decide), other _ (by decide), other _ (by decide), other _ (by decide)⟩
  · simp only [List.mem_cons, List.not_mem_nil, or_false, not_or]
    exact ⟨other _ (by decide), other _ (by decide), other _ (by decide), other _ (by decide), other _ (by decide),
      other _ (by decide), other _ (by decide), other _ (by decide)⟩

/-- A value begins with no blank and no closing bracket. -/
theorem write_head {value : JsonValue} (proper : Proper value) :
    ∃ c more, write value = c :: more ∧ isBlank c = false ∧ c ≠ ']' := by
  cases value with
  | null => exact ⟨'n', _, rfl, by decide, by decide⟩
  | bool value => cases value <;> exact ⟨_, _, rfl, by decide, by decide⟩
  | number value =>
    cases value with
    | finite x =>
      obtain ⟨c, more, text, head⟩ := write_number_head x
      obtain ⟨visible, other⟩ := number_head_other head
      refine ⟨c, more, text, visible, ?_⟩
      rintro rfl
      exact other (by decide)
    | _ => cases proper
  | string value => exact ⟨'"', _, rfl, by decide, by decide⟩
  | array elements => cases elements <;> exact ⟨'[', _, by rw [write], by decide, by decide⟩
  | object fields => cases fields <;> exact ⟨'{', _, by rw [write], by decide, by decide⟩

theorem writeMore_ends (elements : List JsonValue) (rest : List Char) : Ends (writeMore elements ++ rest) := by
  cases elements <;> exact .of_cons ⟨by decide, by decide, by decide, by decide⟩

theorem writeFields_ends (fields : List (String × JsonValue)) (rest : List Char) : Ends (writeFields fields ++ rest) := by
  cases fields <;> exact .of_cons ⟨by decide, by decide, by decide, by decide⟩

theorem readValue_number (x : Double) (ends : Ends rest) (calls : Nat) :
    readValue (calls + 1) (Numeral.write (.finite x) ++ rest) = some (.number (.finite x), rest) := by
  have scanned := scanNumber_write x ends
  obtain ⟨c, more, text, head⟩ := write_number_head x
  obtain ⟨visible, other⟩ := number_head_other head
  simp only [List.mem_cons, List.not_mem_nil, or_false, not_or] at other
  obtain ⟨quote, bracket, brace, true_, false_, null, -, -⟩ := other
  rw [text, List.cons_append] at scanned ⊢
  simp only [readValue, skip_cons visible, if_neg quote, if_neg bracket, if_neg brace, if_neg true_, if_neg false_, if_neg null,
    scanned, Option.map_some]

theorem readValue_elements {text : List Char} (opens : ∃ c more, text = c :: more ∧ isBlank c = false ∧ c ≠ ']') (calls : Nat) :
    readValue (calls + 1) ('[' :: text) = (readValue calls text).bind fun first =>
      (readMore calls first.2).bind fun more => some (.array (first.1 :: more.1), more.2) := by
  obtain ⟨c, more, rfl, visible, other⟩ := opens
  rw [readValue, skip_cons (by decide)]
  simp only [Char.reduceEq, if_false, if_true, skip_cons visible]
  split
  · next same =>
    cases same
    exact absurd rfl other
  · rfl

theorem readMore_comma (text : List Char) (calls : Nat) : readMore (calls + 1) (',' :: text) =
    (readValue calls text).bind fun first => (readMore calls first.2).bind fun more => some (first.1 :: more.1, more.2) := by
  rw [readMore, skip_cons (by decide)]
  rfl

theorem readValue_fields (key : String) (text : List Char) (calls : Nat) :
    readValue (calls + 1) ('{' :: (quote key ++ ':' :: text)) = (readValue calls text).bind fun first =>
      (readFields calls first.2).bind fun more => some (.object (setFields ((key, first.1) :: more.1)), more.2) := by
  have read := readKey_quote key text
  rw [readValue, skip_cons (by decide)]
  simp only [Char.reduceEq, if_false, if_true]
  have opens : skip (quote key ++ ':' :: text) = quote key ++ ':' :: text := skip_cons (by decide) _
  rw [opens]
  split
  · next same => cases same
  · rw [read]
    rfl

theorem readFields_comma (key : String) (text : List Char) (calls : Nat) :
    readFields (calls + 1) (',' :: (quote key ++ ':' :: text)) = (readValue calls text).bind fun first =>
      (readFields calls first.2).bind fun more => some ((key, first.1) :: more.1, more.2) := by
  have read := readKey_quote key text
  rw [readFields, skip_cons (by decide)]
  simp only [read]
  rfl

mutual

/-- Every proper value is read back from its text. -/
theorem readValue_write (value : JsonValue) (rest : List Char) {calls : Nat} (proper : Proper value) (ends : Ends rest)
    (enough : (write value).length ≤ calls) : readValue calls (write value ++ rest) = some (value, rest) := by
  obtain ⟨first, more, text, -⟩ := write_head proper
  obtain ⟨calls, rfl⟩ : ∃ fewer, calls = fewer + 1 := by
    rw [text, List.length_cons] at enough
    exact ⟨calls - 1, by omega⟩
  cases value with
  | null => rfl
  | bool value => cases value <;> rfl
  | number value =>
    cases value with
    | finite x => exact readValue_number x ends calls
    | _ => cases proper
  | string value =>
    obtain ⟨body, text, read⟩ := readString_quote value rest
    rw [write, text, readValue, skip_cons (by decide)]
    simp only [if_true, read, Option.map_some]
  | array elements =>
    cases elements with
    | nil => rfl
    | cons element elements =>
      obtain ⟨properFirst, properMore⟩ := proper
      rw [write, List.length_cons, List.length_append] at enough
      obtain ⟨c, more, text, opens⟩ := write_head properFirst
      have first := readValue_write element (writeMore elements ++ rest) properFirst (writeMore_ends elements rest)
        (show _ ≤ calls by omega)
      have others := readMore_write elements rest properMore (show _ ≤ calls by omega)
      rw [write, List.cons_append, List.append_assoc, readValue_elements ⟨c, _, by rw [text]; rfl, opens⟩, first,
        Option.bind_some, others, Option.bind_some]
  | object fields =>
    cases fields with
    | nil => rfl
    | cons field fields =>
      obtain ⟨key, value⟩ := field
      obtain ⟨listed, properFirst, properMore⟩ := proper
      rw [write, List.length_cons, List.length_append, List.length_cons, List.length_append] at enough
      have first := readValue_write value (writeFields fields ++ rest) properFirst (writeFields_ends fields rest)
        (show _ ≤ calls by omega)
      have others := readFields_write fields rest properMore (show _ ≤ calls by omega)
      rw [write, List.cons_append, List.append_assoc, List.cons_append, List.append_assoc, readValue_fields, first,
        Option.bind_some, others, Option.bind_some, setFields_listed listed]

theorem readMore_write (elements : List JsonValue) (rest : List Char) {calls : Nat} (proper : ProperElements elements)
    (enough : (writeMore elements).length ≤ calls) : readMore calls (writeMore elements ++ rest) = some (elements, rest) := by
  cases elements with
  | nil =>
    obtain ⟨calls, rfl⟩ : ∃ fewer, calls = fewer + 1 := ⟨calls - 1, (Nat.sub_add_cancel enough).symm⟩
    rfl
  | cons element elements =>
    obtain ⟨properFirst, properMore⟩ := proper
    rw [writeMore, List.length_cons, List.length_append] at enough
    obtain ⟨calls, rfl⟩ : ∃ fewer, calls = fewer + 1 := ⟨calls - 1, by omega⟩
    have first := readValue_write element (writeMore elements ++ rest) properFirst (writeMore_ends elements rest)
      (show _ ≤ calls by omega)
    have others := readMore_write elements rest properMore (show _ ≤ calls by omega)
    rw [writeMore, List.cons_append, List.append_assoc, readMore_comma, first, Option.bind_some, others, Option.bind_some]

theorem readFields_write (fields : List (String × JsonValue)) (rest : List Char) {calls : Nat} (proper : ProperFields fields)
    (enough : (writeFields fields).length ≤ calls) : readFields calls (writeFields fields ++ rest) = some (fields, rest) := by
  cases fields with
  | nil =>
    obtain ⟨calls, rfl⟩ : ∃ fewer, calls = fewer + 1 := ⟨calls - 1, (Nat.sub_add_cancel enough).symm⟩
    rfl
  | cons field fields =>
    obtain ⟨key, value⟩ := field
    obtain ⟨properFirst, properMore⟩ := proper
    rw [writeFields, List.length_cons, List.length_append, List.length_cons, List.length_append] at enough
    obtain ⟨calls, rfl⟩ : ∃ fewer, calls = fewer + 1 := ⟨calls - 1, by omega⟩
    have first := readValue_write value (writeFields fields ++ rest) properFirst (writeFields_ends fields rest)
      (show _ ≤ calls by omega)
    have others := readFields_write fields rest properMore (show _ ≤ calls by omega)
    rw [writeFields, List.cons_append, List.append_assoc, List.cons_append, List.append_assoc, readFields_comma, first,
      Option.bind_some, others, Option.bind_some]

end

/-- `JSON.parse` gives back what `JSON.stringify` was given. -/
theorem parse_stringify {value : JsonValue} (proper : Proper value) : parse (stringify value) = some value := by
  have read := readValue_write value [] proper (fun _ absent => absurd absent (by simp)) (Nat.le_succ (write value).length)
  rw [List.append_nil] at read
  simp only [parse, stringify, String.toList_ofList, read, bind, Option.bind_some]
  rfl

end values

end JsonText
