import ForgottenEngine.BankServices
import ForgottenEngine.Library.CommaLists
import ForgottenEngine.Library.SortByKey
import ForgottenEngine.Progression
import ForgottenEngine.XmlEvents

/-!
# Experience stages

How many times the experience counts at which levels is read from a literal table of the
configuration, by a scanner, or from a document, by the events of an XML reader.

* `TableText` — **the grammar of the tables**, and `StagesDocument` — the events of a document with
  elements that close themselves;
* `StagesFrom` — what both parsers are to return for the entries of their input;
* `parse_table_eq_ok` — the scanner accepts exactly the grammar, within its bounds;
* `parse_document_eq_ok` — so does the other parser, on such documents;
* `openElements_refused` — elements with a closing tag of their own are passed over.
-/

namespace ForgottenEngine

open ByteCodec Fallible Scanner

def maxStageBytes : ℕ := 1024 * 1024

def maxStages : ℕ := 512

def maxProgressionMultiplierMilli : ℕ := 100000

structure ExperienceStage where
  minLevel : ℕ
  maxLevel : ℕ
  multiplierMilli : ℕ
deriving DecidableEq, Repr

/-- `ExperienceAwardStage::new`; nobody looks at its error. -/
def ExperienceAwardStage.new (minLevel maxLevel multiplierMilli : ℕ) :
    Option ExperienceAwardStage :=
  if minLevel = 0 ∨ maxLevel < minLevel ∨ multiplierMilli = 0 ∨
      maxProgressionMultiplierMilli < multiplierMilli then none
  else some ⟨minLevel, maxLevel, multiplierMilli⟩

/-! ### The fields of a stage -/

inductive StageField where
  | minLevel
  | maxLevel
  | multiplier
deriving DecidableEq, Repr

namespace StageField

def name : StageField → String
  | minLevel => "minlevel"
  | maxLevel => "maxlevel"
  | multiplier => "multiplier"

def ofName (name : String) : Option StageField :=
  [minLevel, maxLevel, multiplier].find? fun field => field.name = name

end StageField

/-- The values that have been read so far. -/
abbrev StageFields := StageField → Option ℕ

def stageMultiplierMilli (multiplier : ℕ) : Except ConfigError ℕ :=
  if multiplier * 1000 ≤ u32Max ∧ multiplier * 1000 ≤ maxProgressionMultiplierMilli then
    .ok (multiplier * 1000)
  else .error (.invalidContent "stage multiplier exceeds FE fixed-point compatibility limit")

/-- The texts of the errors of an entry. -/
structure StageTexts where
  noMinLevel : String
  noMultiplier : String
  invalid : String

/-- The stage of the values of an entry; without a highest level it has no end. -/
def stageOf (texts : StageTexts) (fields : StageFields) : Except ConfigError ExperienceStage := do
  let minLevel ← (fields .minLevel).elim (.error (.invalidContent texts.noMinLevel)) .ok
  let multiplier ← (fields .multiplier).elim (.error (.invalidContent texts.noMultiplier)) .ok
  let maxLevel := (fields .maxLevel).getD u32Max
  if minLevel = 0 ∨ maxLevel < minLevel ∨ multiplier = 0 then
    throw (.invalidContent texts.invalid)
  let multiplierMilli ← stageMultiplierMilli multiplier
  return ⟨minLevel, maxLevel, multiplierMilli⟩

/-- Neighbours whose levels overlap. -/
def overlapping (stages : List ExperienceStage) : Bool :=
  (stages.zip stages.tail).any fun pair => pair.2.minLevel ≤ pair.1.maxLevel

def validateExperienceStages (stages : List ExperienceStage) (source : String) :
    Except ConfigError (List ExperienceStage) := do
  let stages := sortByKey ExperienceStage.minLevel stages
  if stages = [] ∨ overlapping stages then
    throw (.invalidContent (source ++ " is empty or has overlapping level ranges"))
  stages.forM fun stage =>
    (ExperienceAwardStage.new stage.minLevel stage.maxLevel stage.multiplierMilli).elim
      (.error (.invalidContent (source ++ " contains an unsupported stage multiplier")))
      fun _ => .ok ()
  return stages

/-! ### The table -/

/-- `u8::is_ascii_whitespace` -/
def isAsciiWhitespace (b : UInt8) : Bool := b ∈ [32, 9, 10, 12, 13]

def isAsciiDigit (b : UInt8) : Bool := 48 ≤ b && b ≤ 57

/-- The bytes of a field name. -/
def isNameByte (b : UInt8) : Bool :=
  isAsciiDigit b || (65 ≤ b && b ≤ 90) || (97 ≤ b && b ≤ 122) || b = 95

/-- The characters of bytes that are all below 128. -/
def asciiChars (bytes : List UInt8) : List Char := bytes.map fun b => Char.ofNat b.toNat

/-- Over what is behind its `offset`. -/
abbrev ConfigStageTableReader (α : Type) : Type := ByteCodec.Reader ConfigError α

section Table

-- the number of bytes of the table
variable (length : ℕ)

/-- `ConfigStageTableReader::error` -/
def tableError (message : String) (rest : List UInt8) : ConfigError :=
  .invalidContent ("experienceStages table at byte " ++ toString (length - rest.length) ++ ": " ++
    message)

def tableExpect (c : UInt8) : ConfigStageTableReader Unit :=
  expect isAsciiWhitespace c
    (tableError length ("expected `" ++ String.singleton (Char.ofNat c.toNat) ++ "`"))

def identifier : ConfigStageTableReader (List UInt8) :=
  word isAsciiWhitespace isNameByte (tableError length "expected a field name")

def unsignedInteger : ConfigStageTableReader ℕ := do
  let digits ← word isAsciiWhitespace isAsciiDigit
    (tableError length "expected an unsigned integer literal")
  match parseUnsigned u32Max (asciiChars digits) with
  | some value => pure value
  | none => failAt (tableError length "integer literal is outside the supported range")

/-- A field that has no value yet gets one. -/
def setField (fields : StageFields) (key : String) (value : ℕ) : Except ConfigError StageFields :=
  match StageField.ofName key with
  | none =>
    .error (.invalidContent ("experienceStages entry has unsupported field `" ++ key ++ "`"))
  | some field =>
    if (fields field).isSome then
      .error (.invalidContent ("experienceStages entry repeats `" ++ key ++ "`"))
    else .ok (Function.update fields field (some value))

def readField (fields : StageFields) : ConfigStageTableReader StageFields := do
  let key ← identifier length
  tableExpect length 61
  let value ← unsignedInteger length
  ofExcept (setField fields (String.ofList (asciiChars key)) value)

end Table

/-! ### The grammar -/

abbrev IsBlank (bytes : List UInt8) : Prop := Blanks isAsciiWhitespace bytes

/-- An unsigned literal of a value of 32 bits. -/
def Literal (value : ℕ) (digits : List UInt8) : Prop :=
  digits ≠ [] ∧ (∀ b ∈ digits, isAsciiDigit b = true) ∧
    digitsValue (asciiChars digits) = some value ∧ value ≤ u32Max

def nameBytes (field : StageField) : List UInt8 :=
  field.name.toList.map fun c => UInt8.ofNat c.toNat

/-- A field and its value, with an equals sign between them. -/
def FieldText (x : StageField × ℕ) (text : List UInt8) : Prop :=
  ∃ ws₁ ws₂ ws₃ digits, IsBlank ws₁ ∧ IsBlank ws₂ ∧ IsBlank ws₃ ∧ Literal x.2 digits ∧
    text = ws₁ ++ nameBytes x.1 ++ (ws₂ ++ [61] ++ (ws₃ ++ digits))

theorem byte_of_char (b : UInt8) : UInt8.ofNat (Char.ofNat b.toNat).toNat = b := by
  have hb : b.toNat < 256 := b.toNat_lt
  have hvalid : b.toNat.isValidChar := .inl (by omega)
  have hchar : (Char.ofNat b.toNat).toNat = b.toNat := by
    unfold Char.ofNat
    rw [dif_pos hvalid]
    rfl
  rw [hchar, UInt8.ofNat_toNat]

theorem nameBytes_ne_nil (field : StageField) : nameBytes field ≠ [] := by
  cases field <;> decide +kernel

theorem isNameByte_of_mem (field : StageField) : ∀ b ∈ nameBytes field, isNameByte b = true := by
  cases field <;> decide +kernel

/-- The name of a field is read off its bytes, and off no others. -/
theorem ofName_eq_some {w : List UInt8} {field : StageField} :
    StageField.ofName (String.ofList (asciiChars w)) = some field ↔ w = nameBytes field := by
  constructor
  · intro h
    have hname : field.name = String.ofList (asciiChars w) := by
      simpa using List.find?_some h
    have hbytes : nameBytes field = w.map fun b => UInt8.ofNat (Char.ofNat b.toNat).toNat := by
      rw [nameBytes, hname, String.toList_ofList, asciiChars, List.map_map]
      rfl
    rw [hbytes]
    simp [byte_of_char]
  · intro h
    subst h
    cases field <;> decide +kernel

theorem parseUnsigned_plain {bound : ℕ} {text : List Char} (h : ∀ rest, text ≠ '+' :: rest) :
    parseUnsigned bound text =
      if text = [] then none else (digitsValue text).filter (· ≤ bound) := by
  rw [parseUnsigned.eq_def]
  dsimp only
  split
  · next rest => exact absurd rfl (h rest)
  · rfl

/-- Digits carry no plus sign. -/
theorem parseUnsigned_digits {digits : List UInt8} (hne : digits ≠ [])
    (hdigits : ∀ b ∈ digits, isAsciiDigit b = true) {value : ℕ} :
    parseUnsigned u32Max (asciiChars digits) = some value ↔
      digitsValue (asciiChars digits) = some value ∧ value ≤ u32Max := by
  have hchars : asciiChars digits ≠ [] := by simpa [asciiChars] using hne
  have hplain : ∀ rest, asciiChars digits ≠ '+' :: rest := by
    intro rest heq
    cases digits with
    | nil => cases heq
    | cons b digits =>
      have hb := hdigits b List.mem_cons_self
      have hplus : Char.ofNat b.toNat = '+' := (List.cons.inj heq).1
      have hbyte : b = 43 := by
        rw [← byte_of_char b, hplus]
        rfl
      rw [hbyte] at hb
      exact absurd hb (by decide)
  rw [parseUnsigned_plain hplain, if_neg hchars, Option.filter_eq_some_iff, decide_eq_true_eq]

/-- The error of a check is not looked at when it goes through. -/
theorem setField_eq_ok {fields result : StageFields} {key : List UInt8} {value : ℕ} :
    setField fields (String.ofList (asciiChars key)) value = .ok result ↔
      ∃ field, key = nameBytes field ∧ fields field = none ∧
        result = Function.update fields field (some value) := by
  unfold setField
  split
  · next hnone =>
    constructor
    · intro h
      cases h
    · intro h
      obtain ⟨field, hkey, -⟩ := h
      rw [ofName_eq_some.mpr hkey] at hnone
      cases hnone
  · next field hfield =>
    have hkey := ofName_eq_some.mp hfield
    split_ifs with hsome
    · constructor
      · intro h
        cases h
      · intro h
        obtain ⟨other, hother, hnone, -⟩ := h
        have hsame : field = other := by
          rw [ofName_eq_some.mpr hother] at hfield
          exact (Option.some.inj hfield).symm
        rw [hsame, hnone] at hsome
        cases hsome
    · constructor
      · intro h
        cases h
        exact ⟨field, hkey, Option.not_isSome_iff_eq_none.mp hsome, rfl⟩
      · intro h
        obtain ⟨other, hother, hnone, rfl⟩ := h
        rw [ofName_eq_some.mpr hother] at hfield
        cases hfield
        rfl

theorem toOption_eq_some {ε α : Type} {x : Except ε α} {a : α} :
    x.toOption = some a ↔ x = .ok a := by
  cases x <;> simp [Except.toOption]

/-! ### A field -/

section Fields

variable {length : ℕ}

theorem isNameByte_eq_false {b : UInt8} (hb : isAsciiWhitespace b = true ∨ b = 61) :
    isNameByte b = false := by
  have hcases : b ∈ ([32, 9, 10, 12, 13, 61] : List UInt8) := by
    simpa [isAsciiWhitespace, or_assoc] using hb
  fin_cases hcases <;> decide

theorem isAsciiDigit_eq_false {b : UInt8}
    (hb : isAsciiWhitespace b = true ∨ b = 44 ∨ b = 125) : isAsciiDigit b = false := by
  have hcases : b ∈ ([32, 9, 10, 12, 13, 44, 125] : List UInt8) := by
    simpa [isAsciiWhitespace, or_assoc] using hb
  fin_cases hcases <;> decide

theorem not_blank_of_isNameByte (b : UInt8) (hb : isNameByte b = true) :
    isAsciiWhitespace b = false := by
  cases hblank : isAsciiWhitespace b with
  | false => rfl
  | true =>
    rw [isNameByte_eq_false (.inl hblank)] at hb
    cases hb

theorem not_blank_of_isAsciiDigit (b : UInt8) (hb : isAsciiDigit b = true) :
    isAsciiWhitespace b = false :=
  not_blank_of_isNameByte b (by simp [isNameByte, hb])

theorem scans_unsignedInteger :
    Scans (unsignedInteger length) (fun value text => ∃ ws digits, IsBlank ws ∧
      Literal value digits ∧ text = ws ++ digits) fun b => isAsciiDigit b = false := by
  unfold unsignedInteger
  have hword := scans_word not_blank_of_isAsciiDigit
    (tableError length "expected an unsigned integer literal")
  have hcheck : ∀ (digits : List UInt8) bytes (b : ℕ) rest,
      (match parseUnsigned u32Max (asciiChars digits) with
        | some value => (pure value : ConfigStageTableReader ℕ)
        | none => failAt (tableError length "integer literal is outside the supported range")) bytes
          = (.ok b, rest) ↔
        parseUnsigned u32Max (asciiChars digits) = some b ∧ rest = bytes := by
    intro digits bytes b rest
    cases parseUnsigned u32Max (asciiChars digits) with
    | some value => simp [pure_apply, eq_comm]
    | none => simp [failAt]
  refine (hword.check hcheck).congr fun value text => ?_
  constructor
  · intro h
    obtain ⟨digits, ⟨hne, hdigits, ws, hws, htext⟩, hvalue⟩ := h
    exact ⟨ws, digits, hws, ⟨hne, hdigits, (parseUnsigned_digits hne hdigits).mp hvalue⟩, htext⟩
  · intro h
    obtain ⟨ws, digits, hws, ⟨hne, hdigits, hvalue⟩, htext⟩ := h
    exact ⟨digits, ⟨hne, hdigits, ws, hws, htext⟩, (parseUnsigned_digits hne hdigits).mpr hvalue⟩

/-- What stands behind the name of a field. -/
theorem scans_fieldValue (fields : StageFields) (key : List UInt8) :
    Scans (do
        tableExpect length 61
        let value ← unsignedInteger length
        ofExcept (setField fields (String.ofList (asciiChars key)) value))
      (fun result text => ∃ (u : Unit) (front back : List UInt8), text = front ++ back ∧
        (∃ ws, IsBlank ws ∧ front = ws ++ [61]) ∧ ∃ value, (∃ ws digits, IsBlank ws ∧
          Literal value digits ∧ back = ws ++ digits) ∧
        setField fields (String.ofList (asciiChars key)) value = .ok result)
      fun b => isAsciiDigit b = false := by
  have hcheck : ∀ value bytes result rest,
      (ofExcept (setField fields (String.ofList (asciiChars key)) value) :
        ConfigStageTableReader StageFields) bytes = (.ok result, rest) ↔
      (setField fields (String.ofList (asciiChars key)) value).toOption = some result ∧
        rest = bytes := by
    intro value bytes result rest
    rw [ofExcept_apply, toOption_eq_some]
    simp [eq_comm]
  refine ((scans_expect (by decide) _).bind (fun _ => scans_unsignedInteger.check hcheck)
    fun _ _ _ _ _ _ _ _ => trivial).congr fun result text => ?_
  simp only [toOption_eq_some]

theorem scans_readField (fields : StageFields) :
    Scans (readField length fields) (fun result text => ∃ x, FieldText x text ∧
      fields x.1 = none ∧ result = Function.update fields x.1 (some x.2))
      fun b => isAsciiDigit b = false := by
  unfold readField
  refine ((scans_word not_blank_of_isNameByte _).bind (fun key => scans_fieldValue fields key)
    ?_).congr ?_
  · intro key result back rest hback _ c hc
    obtain ⟨_, front, tail, rfl, ⟨ws, hws, rfl⟩, -⟩ := hback
    rw [List.append_assoc, List.append_assoc, List.singleton_append] at hc
    exact isNameByte_eq_false (hws.head?_cases hc)
  · intro result text
    constructor
    · intro h
      obtain ⟨key, front, back, rfl, ⟨hne, hkey, ws₁, hws₁, rfl⟩, _, mid, tail, rfl,
        ⟨ws₂, hws₂, rfl⟩, value, ⟨ws₃, digits, hws₃, hdigits, rfl⟩, hset⟩ := h
      obtain ⟨field, rfl, hnone, rfl⟩ := setField_eq_ok.mp hset
      exact ⟨(field, value), ⟨ws₁, ws₂, ws₃, digits, hws₁, hws₂, hws₃, hdigits, rfl⟩, hnone, rfl⟩
    · intro h
      obtain ⟨⟨field, value⟩, ⟨ws₁, ws₂, ws₃, digits, hws₁, hws₂, hws₃, hdigits, rfl⟩, hnone,
        rfl⟩ := h
      exact ⟨nameBytes field, _, _, rfl,
        ⟨nameBytes_ne_nil field, isNameByte_of_mem field, ws₁, hws₁, rfl⟩, (), _, _, rfl,
        ⟨ws₂, hws₂, rfl⟩, value, ⟨ws₃, digits, hws₃, hdigits, rfl⟩,
        setField_eq_ok.mpr ⟨field, rfl, hnone, rfl⟩⟩

theorem length_readField (fields : StageFields) (bytes : List UInt8) (result : StageFields)
    (rest : List UInt8) (h : readField length fields bytes = (.ok result, rest)) :
    rest.length < bytes.length := by
  refine (scans_readField fields).length_lt (fun _ text htext => ?_) h
  obtain ⟨x, ⟨ws₁, ws₂, ws₃, digits, -, -, -, -, rfl⟩, -⟩ := htext
  simp

end Fields

/-! ### An entry -/

/-- What an entry says. -/
structure StageEntry where
  minLevel : ℕ
  maxLevel : Option ℕ
  multiplier : ℕ
deriving DecidableEq, Repr

namespace StageEntry

def fields (self : StageEntry) : StageFields
  | .minLevel => some self.minLevel
  | .maxLevel => self.maxLevel
  | .multiplier => some self.multiplier

def lastLevel (self : StageEntry) : ℕ := self.maxLevel.getD u32Max

/-- Positive levels, and a multiplier within the limits of the core. -/
def Valid (self : StageEntry) : Prop :=
  0 < self.minLevel ∧ self.minLevel ≤ self.lastLevel ∧ 0 < self.multiplier ∧
    self.multiplier * 1000 ≤ maxProgressionMultiplierMilli

instance (self : StageEntry) : Decidable self.Valid :=
  inferInstanceAs (Decidable (_ ∧ _ ∧ _ ∧ _))

def stage (self : StageEntry) : ExperienceStage :=
  ⟨self.minLevel, self.lastLevel, self.multiplier * 1000⟩

end StageEntry

/-- Every field at most once, with its value. -/
def Says (xs : List (StageField × ℕ)) (fields : StageFields) : Prop :=
  (xs.map Prod.fst).Nodup ∧ ∀ field value, fields field = some value ↔ (field, value) ∈ xs

/-- The fields of an entry in braces, in any order. -/
def EntryText (e : StageEntry) (text : List UInt8) : Prop :=
  ∃ xs ws body, Says xs e.fields ∧ IsBlank ws ∧
    CommaList isAsciiWhitespace 44 125 FieldText xs body ∧ text = ws ++ 123 :: body

def tableTexts : StageTexts where
  noMinLevel := "experienceStages entry lacks minlevel"
  noMultiplier := "experienceStages entry lacks multiplier"
  invalid := "experienceStages range or multiplier is invalid"

section Entries

variable (length : ℕ)

def readFields : ConfigStageTableReader StageFields :=
  listed isAsciiWhitespace 44 125 (readField length)
    (tableError length "expected a comma or entry terminator") length_readField fun _ => none

def readEntry (stages : List ExperienceStage) : ConfigStageTableReader (List ExperienceStage) :=
  if maxStages ≤ stages.length then
    fail (.invalidContent "experienceStages entry count exceeds limit")
  else do
    tableExpect length 123
    let fields ← readFields length
    let stage ← ofExcept (stageOf tableTexts fields)
    pure (stages ++ [stage])

variable {length}

/-- A field that has no value yet gets one. -/
def addField (fields : StageFields) (x : StageField × ℕ) : Option StageFields :=
  if fields x.1 = none then some (Function.update fields x.1 (some x.2)) else none

theorem addField_eq_some {fields result : StageFields} {x : StageField × ℕ} :
    addField fields x = some result ↔
      fields x.1 = none ∧ result = Function.update fields x.1 (some x.2) := by
  unfold addField
  split_ifs with h
  · simp [h, eq_comm]
  · simp [h]

/-- Fields one after the other: none is named twice. -/
theorem foldlM_addField {xs : List (StageField × ℕ)} {start fields : StageFields} :
    xs.foldlM addField start = some fields ↔ (xs.map Prod.fst).Nodup ∧
      (∀ x ∈ xs, start x.1 = none) ∧
      ∀ field value, fields field = some value ↔
        start field = some value ∨ (field, value) ∈ xs := by
  induction xs generalizing start with
  | nil =>
    rw [List.foldlM_nil, Option.pure_def, Option.some_inj]
    constructor
    · intro h
      subst h
      simp
    · intro h
      funext field
      apply Option.ext
      intro value
      rw [h.2.2 field value]
      simp
  | cons x xs ih =>
    have hmid : ∀ field, start x.1 = none →
        (Function.update start x.1 (some x.2) field = none ↔ field ≠ x.1 ∧ start field = none) := by
      intro field hnone
      by_cases hfield : field = x.1
      · simp [hfield]
      · simp [hfield]
    have hvalue : ∀ field value, start x.1 = none →
        (Function.update start x.1 (some x.2) field = some value ↔
          start field = some value ∨ (field, value) = x) := by
      intro field value hnone
      by_cases hfield : field = x.1
      · simp [hfield, hnone, Prod.ext_iff, eq_comm]
      · simp [hfield, Prod.ext_iff]
    rw [List.foldlM_cons, Option.bind_eq_bind, Option.bind_eq_some_iff]
    simp only [addField_eq_some, ih, List.map_cons, List.nodup_cons, List.mem_cons, List.mem_map]
    constructor
    · intro h
      obtain ⟨_, ⟨hnone, rfl⟩, hnodup, hfresh, hfields⟩ := h
      simp only [hmid _ hnone] at hfresh
      refine ⟨⟨?_, hnodup⟩, ?_, fun field value => ?_⟩
      · rintro ⟨y, hy, heq⟩
        exact (hfresh y hy).1 heq
      · rintro y (rfl | hy)
        · exact hnone
        · exact (hfresh y hy).2
      · rw [hfields, hvalue field value hnone, or_assoc]
    · intro h
      obtain ⟨⟨hnew, hnodup⟩, hfresh, hfields⟩ := h
      have hnone := hfresh x (.inl rfl)
      refine ⟨_, ⟨hnone, rfl⟩, hnodup, fun y hy => ?_, fun field value => ?_⟩
      · exact (hmid y.1 hnone).mpr ⟨fun heq => hnew ⟨y, hy, heq⟩, hfresh y (.inr hy)⟩
      · rw [hfields, hvalue field value hnone, or_assoc]

/-- A field begins with its name. -/
theorem opens_of_fieldText {x : StageField × ℕ} {text : List UInt8} (h : FieldText x text) :
    ∃ ws c tail, IsBlank ws ∧ isAsciiWhitespace c = false ∧ c ≠ 125 ∧ text = ws ++ c :: tail := by
  obtain ⟨ws₁, ws₂, ws₃, digits, hws₁, -, -, -, rfl⟩ := h
  cases hname : nameBytes x.1 with
  | nil => exact absurd hname (nameBytes_ne_nil x.1)
  | cons c name =>
    have hmem : c ∈ nameBytes x.1 := by
      rw [hname]
      exact List.mem_cons_self
    have hc : isNameByte c = true := isNameByte_of_mem x.1 c hmem
    refine ⟨ws₁, c, name ++ (ws₂ ++ [61] ++ (ws₃ ++ digits)), hws₁,
      not_blank_of_isNameByte c hc, ?_, by simp⟩
    rintro rfl
    exact absurd hc (by decide)

theorem scans_readFields : Scans (readFields length) (fun fields text =>
    ∃ xs, CommaList isAsciiWhitespace 44 125 FieldText xs text ∧ Says xs fields)
    fun _ => True := by
  have hitems : ListItems isAsciiWhitespace 44 125 (readField length) FieldText addField
      fun b => isAsciiDigit b = false := {
    scans := fun fields => (scans_readField fields).congr fun result text => by
      simp only [addField_eq_some]
    skips := fun fields => (skips_word _ _).bind
    opens := fun x text htext => opens_of_fieldText htext
    edge_blank := fun b hb => isAsciiDigit_eq_false (.inl hb)
    edge_sep := by decide
    edge_stop := by decide }
  refine (scans_listed hitems (by decide) (by decide) (by decide) length_readField _).congr ?_
  intro fields text
  simp only [foldlM_addField, Says]
  simp

theorem stageOf_eq_ok {texts : StageTexts} {fields : StageFields} {stage : ExperienceStage} :
    stageOf texts fields = .ok stage ↔
      ∃ e : StageEntry, e.fields = fields ∧ e.Valid ∧ stage = e.stage := by
  constructor
  · intro h
    unfold stageOf at h
    cases hmin : fields .minLevel with
    | none =>
      rw [hmin] at h
      cases h
    | some minLevel =>
      cases hmultiplier : fields .multiplier with
      | none =>
        rw [hmin, hmultiplier] at h
        cases h
      | some multiplier =>
        rw [hmin, hmultiplier] at h
        simp only [Option.elim_some, bind, Except.bind] at h
        split_ifs at h with hbad
        unfold stageMultiplierMilli at h
        split_ifs at h with hmilli
        cases h
        push Not at hbad
        refine ⟨⟨minLevel, fields .maxLevel, multiplier⟩, ?_, ?_, rfl⟩
        · funext field
          cases field with
          | minLevel => exact hmin.symm
          | maxLevel => rfl
          | multiplier => exact hmultiplier.symm
        · exact ⟨Nat.pos_of_ne_zero hbad.1, hbad.2.1, Nat.pos_of_ne_zero hbad.2.2, hmilli.2⟩
  · intro h
    obtain ⟨e, rfl, ⟨hmin, hlevels, hpos, hmilli⟩, rfl⟩ := h
    have hrange : ¬(e.minLevel = 0 ∨ e.lastLevel < e.minLevel ∨ e.multiplier = 0) := by omega
    have hbound : e.multiplier * 1000 ≤ u32Max := hmilli.trans (by decide)
    show (if e.minLevel = 0 ∨ e.lastLevel < e.minLevel ∨ e.multiplier = 0 then _ else _) = _
    rw [if_neg hrange]
    show (do
      let multiplierMilli ← stageMultiplierMilli e.multiplier
      pure (⟨e.minLevel, e.lastLevel, multiplierMilli⟩ : ExperienceStage)) = .ok e.stage
    unfold stageMultiplierMilli
    rw [if_pos ⟨hbound, hmilli⟩]
    rfl

/-- One more entry, within the limit. -/
def addEntry (stages : List ExperienceStage) (e : StageEntry) : Option (List ExperienceStage) :=
  if stages.length < maxStages ∧ e.Valid then some (stages ++ [e.stage]) else none

theorem addEntry_eq_some {stages result : List ExperienceStage} {e : StageEntry} :
    addEntry stages e = some result ↔
      (stages.length < maxStages ∧ e.Valid) ∧ stages ++ [e.stage] = result := by
  unfold addEntry
  split_ifs with h
  · simp [h]
  · simp [h]

/-- Entries one after the other, up to the limit. -/
theorem foldlM_addEntry {entries : List StageEntry} {start stages : List ExperienceStage}
    (hstart : start.length ≤ maxStages) :
    entries.foldlM addEntry start = some stages ↔ (∀ e ∈ entries, e.Valid) ∧
      start.length + entries.length ≤ maxStages ∧
      start ++ entries.map StageEntry.stage = stages := by
  induction entries generalizing start with
  | nil => simp [hstart]
  | cons e entries ih =>
    rw [List.foldlM_cons, Option.bind_eq_bind, Option.bind_eq_some_iff]
    simp only [addEntry_eq_some, List.forall_mem_cons, List.length_cons, List.map_cons]
    constructor
    · intro h
      obtain ⟨_, ⟨⟨hroom, he⟩, rfl⟩, hrest⟩ := h
      obtain ⟨hvalid, hlength, rfl⟩ := (ih (by simpa using hroom)).mp hrest
      refine ⟨⟨he, hvalid⟩, ?_, by simp⟩
      simp only [List.length_append, List.length_singleton] at hlength
      omega
    · intro h
      obtain ⟨⟨he, hvalid⟩, hlength, rfl⟩ := h
      have hroom : start.length < maxStages := by omega
      refine ⟨_, ⟨⟨hroom, he⟩, rfl⟩, (ih (by simpa using hroom)).mpr ⟨hvalid, ?_, by simp⟩⟩
      simp only [List.length_append, List.length_singleton]
      omega

theorem scans_readEntry (stages : List ExperienceStage) :
    Scans (readEntry length stages) (fun result text => ∃ e, EntryText e text ∧
      addEntry stages e = some result) fun _ => True := by
  unfold readEntry
  split_ifs with hlimit
  · intro bytes result rest
    constructor
    · intro h
      cases h
    · intro h
      obtain ⟨_, -, ⟨e, -, he⟩, -⟩ := h
      exact absurd (addEntry_eq_some.mp he).1.1 (not_lt.mpr hlimit)
  · have hcheck : ∀ (fields : StageFields) bytes result rest,
        (do
          let stage ← ofExcept (stageOf tableTexts fields)
          pure (stages ++ [stage]) : ConfigStageTableReader (List ExperienceStage)) bytes =
            (.ok result, rest) ↔
        (stageOf tableTexts fields).toOption.map (fun stage => stages ++ [stage]) = some result ∧
          rest = bytes := by
      intro fields bytes result rest
      cases stageOf tableTexts fields with
      | error fault => simp [Except.toOption]
      | ok stage =>
        rw [bind_of_ok (ofExcept_apply _ _), pure_apply]
        simp [Except.toOption, eq_comm]
    refine ((scans_expect (by decide) _).bind (fun _ => scans_readFields.check hcheck)
      fun _ _ _ _ _ _ _ _ => trivial).congr fun result text => ?_
    simp only [Option.map_eq_some_iff, toOption_eq_some, stageOf_eq_ok, addEntry_eq_some]
    constructor
    · intro h
      obtain ⟨_, front, back, rfl, ⟨ws, hws, rfl⟩, fields, ⟨xs, hxs, hsaid⟩, stage,
        ⟨e, rfl, he, rfl⟩, rfl⟩ := h
      exact ⟨e, ⟨xs, ws, back, hsaid, hws, hxs, by simp⟩, ⟨not_le.mp hlimit, he⟩, rfl⟩
    · intro h
      obtain ⟨e, ⟨xs, ws, body, hsaid, hws, hxs, rfl⟩, ⟨-, he⟩, rfl⟩ := h
      exact ⟨(), ws ++ [123], body, by simp, ⟨ws, hws, rfl⟩, e.fields, ⟨xs, hxs, hsaid⟩, e.stage,
        ⟨e, rfl, he, rfl⟩, rfl⟩

theorem length_readEntry (stages : List ExperienceStage) (bytes : List UInt8)
    (result : List ExperienceStage) (rest : List UInt8)
    (h : readEntry length stages bytes = (.ok result, rest)) : rest.length < bytes.length := by
  refine (scans_readEntry stages).length_lt (fun _ text htext => ?_) h
  obtain ⟨e, ⟨xs, ws, body, -, -, -, rfl⟩, -⟩ := htext
  simp

end Entries

/-! ### A table -/

/-- Entries in braces, with blanks around them. -/
def TableText (entries : List StageEntry) (table : List UInt8) : Prop :=
  ∃ ws body ws', IsBlank ws ∧ CommaList isAsciiWhitespace 44 125 EntryText entries body ∧
    IsBlank ws' ∧ table = ws ++ 123 :: (body ++ ws')

section Tables

variable (length : ℕ)

def readEntries : ConfigStageTableReader (List ExperienceStage) :=
  listed isAsciiWhitespace 44 125 (readEntry length)
    (tableError length "expected a comma or table terminator") length_readEntry []

def readTable : ConfigStageTableReader (List ExperienceStage) := do
  tableExpect length 123
  let stages ← readEntries length
  skip isAsciiWhitespace
  let rest ← read id
  if rest = [] then pure stages else failAt (tableError length "unexpected trailing input")

end Tables

def parseTfsConfigExperienceStagesTable (table : List UInt8) :
    Except ConfigError (List ExperienceStage) := do
  if maxStageBytes < table.length then
    throw (.invalidContent "experienceStages table exceeds size limit")
  let stages ← (readTable table.length table).1
  validateExperienceStages stages "experienceStages table"

theorem scans_readEntries {length : ℕ} : Scans (readEntries length) (fun stages text =>
    ∃ entries, CommaList isAsciiWhitespace 44 125 EntryText entries text ∧
      (∀ e ∈ entries, e.Valid) ∧ entries.length ≤ maxStages ∧
      entries.map StageEntry.stage = stages) fun _ => True := by
  have hitems : ListItems isAsciiWhitespace 44 125 (readEntry length) EntryText addEntry
      fun _ => True := {
    scans := scans_readEntry
    skips := fun stages => (skips_expect _ _).bind.guard
    opens := by
      rintro e text ⟨xs, ws, body, -, hws, -, rfl⟩
      exact ⟨ws, 123, body, hws, by decide, by decide, rfl⟩
    edge_blank := fun _ _ => trivial
    edge_sep := trivial
    edge_stop := trivial }
  refine (scans_listed hitems (by decide) (by decide) (by decide) length_readEntry _).congr ?_
  intro stages text
  have hstart : ([] : List ExperienceStage).length ≤ maxStages := Nat.zero_le _
  simp only [foldlM_addEntry hstart]
  simp

/-- What the scanner takes for a table. -/
theorem readTable_eq_ok {length : ℕ} {table : List UInt8} {stages : List ExperienceStage} :
    (readTable length table).1 = .ok stages ↔ ∃ entries, TableText entries table ∧
      (∀ e ∈ entries, e.Valid) ∧ entries.length ≤ maxStages ∧
      entries.map StageEntry.stage = stages := by
  rw [fst_eq_ok]
  constructor
  · intro h
    obtain ⟨t, h⟩ := h
    unfold readTable at h
    rw [bind_eq_ok] at h
    obtain ⟨_, behind, hopen, h⟩ := h
    rw [bind_eq_ok] at h
    obtain ⟨found, rest, hentries, h⟩ := h
    rw [bind_of_ok (skip_apply rest), bind_of_ok (read_apply id _)] at h
    split_ifs at h with hrest
    · cases h
      obtain ⟨_, rfl, ⟨ws, hws, rfl⟩, -⟩ := (scans_expect (by decide) _ _ _ _).mp hopen
      obtain ⟨body, rfl, ⟨entries, hbody, hvalid, hcount, hstages⟩, -⟩ :=
        (scans_readEntries _ _ _).mp hentries
      have hblank : IsBlank rest := List.dropWhile_eq_nil_iff.mp hrest
      exact ⟨entries, ⟨ws, body, rest, hws, hbody, hblank, by simp⟩, hvalid, hcount, hstages⟩
    · cases h
  · intro h
    obtain ⟨entries, ⟨ws, body, ws', hws, hbody, hws', rfl⟩, hvalid, hcount, hstages⟩ := h
    have hopen : tableExpect length 123 (ws ++ 123 :: (body ++ ws')) = (.ok (), body ++ ws') :=
      (scans_expect (by decide) _ _ _ _).mpr
        ⟨ws ++ [123], by simp, ⟨ws, hws, rfl⟩, fun _ _ => trivial⟩
    have hentries : readEntries length (body ++ ws') = (.ok stages, ws') :=
      (scans_readEntries _ _ _).mpr
        ⟨body, rfl, ⟨entries, hbody, hvalid, hcount, hstages⟩, fun _ _ => trivial⟩
    have hrest : ws'.dropWhile isAsciiWhitespace = [] := List.dropWhile_eq_nil_iff.mpr hws'
    refine ⟨[], ?_⟩
    unfold readTable
    rw [bind_of_ok hopen, bind_of_ok hentries, bind_of_ok (skip_apply ws'),
      bind_of_ok (read_apply id _), hrest]
    rfl

/-! ### Checking the stages of a source -/

/-- The levels a stage is for. -/
def ExperienceStage.levels (self : ExperienceStage) : Set ℕ := Set.Icc self.minLevel self.maxLevel

/-- **What a parser is to return** for the entries of its input: disjoint stages, sorted. -/
structure StagesFrom (entries : List StageEntry) (stages : List ExperienceStage) : Prop where
  ne_nil : entries ≠ []
  valid : ∀ e ∈ entries, e.Valid
  disjoint : entries.Pairwise fun a b => Disjoint a.stage.levels b.stage.levels
  perm : stages.Perm (entries.map StageEntry.stage)
  sorted : stages.Pairwise fun a b => a.minLevel < b.minLevel

theorem overlapping_eq_false {stages : List ExperienceStage}
    (hsorted : stages.Pairwise fun a b => a.minLevel ≤ b.minLevel) :
    overlapping stages = false ↔ stages.Pairwise fun a b => a.maxLevel < b.minLevel := by
  induction stages with
  | nil => simp [overlapping]
  | cons a stages ih =>
    obtain ⟨ha, hsorted⟩ := List.pairwise_cons.mp hsorted
    cases stages with
    | nil => simp [overlapping]
    | cons b stages =>
      obtain ⟨hb, -⟩ := List.pairwise_cons.mp hsorted
      have hstep : overlapping (a :: b :: stages) = false ↔
          a.maxLevel < b.minLevel ∧ overlapping (b :: stages) = false := by
        simp [overlapping]
      rw [hstep, ih hsorted]
      constructor
      · intro h
        refine List.pairwise_cons.mpr ⟨?_, h.2⟩
        intro c hc
        rcases List.mem_cons.mp hc with rfl | hc
        · exact h.1
        · exact h.1.trans_le (hb c hc)
      · intro h
        obtain ⟨hfirst, hrest⟩ := List.pairwise_cons.mp h
        exact ⟨hfirst b List.mem_cons_self, hrest⟩

/-- Of two stages in the order of their levels, the first one ends before the second one begins. -/
theorem disjoint_levels_iff {a b : ExperienceStage} (hb : b.minLevel ≤ b.maxLevel)
    (hle : a.minLevel ≤ b.minLevel) : Disjoint a.levels b.levels ↔ a.maxLevel < b.minLevel := by
  unfold ExperienceStage.levels
  rw [Set.disjoint_left]
  constructor
  · intro h
    by_contra hover
    exact h ⟨hle, not_lt.mp hover⟩ ⟨le_refl _, hb⟩
  · intro h level hlevel hlevel'
    exact absurd (hlevel.2.trans_lt h) (not_lt.mpr hlevel'.1)

section Sorted

variable {entries : List StageEntry} {sorted : List ExperienceStage}

/-- The stages of valid entries, in any order. -/
theorem valid_of_perm (hvalid : ∀ e ∈ entries, e.Valid)
    (hperm : sorted.Perm (entries.map StageEntry.stage)) :
    ∀ stage ∈ sorted, ∃ e : StageEntry, e.Valid ∧ stage = e.stage := by
  intro stage hstage
  obtain ⟨e, he, rfl⟩ := List.mem_map.mp (hperm.mem_iff.mp hstage)
  exact ⟨e, hvalid e he, rfl⟩

/-- In the order of their levels, stages are disjoint when each one ends before the next begins. -/
theorem pairwise_disjoint_iff (hvalid : ∀ e ∈ entries, e.Valid)
    (hperm : sorted.Perm (entries.map StageEntry.stage))
    (hsorted : sorted.Pairwise fun a b => a.minLevel ≤ b.minLevel) :
    (entries.Pairwise fun a b => Disjoint a.stage.levels b.stage.levels) ↔
      sorted.Pairwise fun a b => a.maxLevel < b.minLevel := by
  have hlevels : ∀ stage ∈ sorted, stage.minLevel ≤ stage.maxLevel := by
    intro stage hstage
    obtain ⟨e, he, rfl⟩ := valid_of_perm hvalid hperm stage hstage
    exact he.2.1
  have hmap : (entries.Pairwise fun a b => Disjoint a.stage.levels b.stage.levels) ↔
      sorted.Pairwise fun a b => Disjoint a.levels b.levels := by
    rw [hperm.pairwise_iff fun h => h.symm, List.pairwise_map]
  rw [hmap]
  constructor
  · intro h
    exact (h.and hsorted).imp_of_mem fun _ hb hab =>
      (disjoint_levels_iff (hlevels _ hb) hab.2).mp hab.1
  · intro h
    exact (h.and hsorted).imp_of_mem fun _ hb hab =>
      (disjoint_levels_iff (hlevels _ hb) hab.2).mpr hab.1

theorem awardStage_of_valid {e : StageEntry} (he : e.Valid) :
    ExperienceAwardStage.new e.stage.minLevel e.stage.maxLevel e.stage.multiplierMilli =
      some ⟨e.minLevel, e.lastLevel, e.multiplier * 1000⟩ := by
  obtain ⟨hmin, hlevels, hpos, hmilli⟩ := he
  refine if_neg ?_
  show ¬(e.minLevel = 0 ∨ e.lastLevel < e.minLevel ∨ e.multiplier * 1000 = 0 ∨
    maxProgressionMultiplierMilli < e.multiplier * 1000)
  omega

/-- The checks of valid entries are about overlaps only. -/
theorem validateExperienceStages_of_valid (source : String) (hvalid : ∀ e ∈ entries, e.Valid)
    (hsorted : sortByKey ExperienceStage.minLevel (entries.map StageEntry.stage) = sorted) :
    validateExperienceStages (entries.map StageEntry.stage) source =
      if sorted = [] ∨ overlapping sorted then
        .error (.invalidContent (source ++ " is empty or has overlapping level ranges"))
      else .ok sorted := by
  have hperm := perm_sortByKey ExperienceStage.minLevel (entries.map StageEntry.stage)
  rw [hsorted] at hperm
  have hawards : (sorted.forM fun stage =>
      (ExperienceAwardStage.new stage.minLevel stage.maxLevel stage.multiplierMilli).elim
        (.error (.invalidContent (source ++ " contains an unsupported stage multiplier")))
        fun _ => .ok () : Except ConfigError Unit) = .ok () := by
    rw [forM_eq_ok]
    intro stage hstage
    obtain ⟨e, he, rfl⟩ := valid_of_perm hvalid hperm stage hstage
    rw [awardStage_of_valid he]
    rfl
  unfold validateExperienceStages
  rw [hsorted]
  by_cases hbad : sorted = [] ∨ overlapping sorted = true
  · simp only [if_pos hbad]
    rfl
  · simp only [hawards, if_neg hbad]
    rfl

theorem validate_eq_ok {source : String} (hvalid : ∀ e ∈ entries, e.Valid) :
    validateExperienceStages (entries.map StageEntry.stage) source = .ok sorted ↔
      StagesFrom entries sorted := by
  obtain ⟨keys, hkeys⟩ : ∃ keys, sortByKey ExperienceStage.minLevel
      (entries.map StageEntry.stage) = keys := ⟨_, rfl⟩
  have hperm := perm_sortByKey ExperienceStage.minLevel (entries.map StageEntry.stage)
  have hle := pairwise_sortByKey ExperienceStage.minLevel (entries.map StageEntry.stage)
  rw [hkeys] at hperm hle
  rw [validateExperienceStages_of_valid source hvalid hkeys]
  constructor
  · intro h
    split_ifs at h with hbad
    cases h
    obtain ⟨hne, hover⟩ := not_or.mp hbad
    have hends := (overlapping_eq_false hle).mp (Bool.eq_false_of_not_eq_true hover)
    refine ⟨?_, hvalid, (pairwise_disjoint_iff hvalid hperm hle).mpr hends, hperm, ?_⟩
    · rintro rfl
      exact hne hperm.eq_nil
    · refine hends.imp_of_mem fun ha _ hab => lt_of_le_of_lt ?_ hab
      obtain ⟨e, he, rfl⟩ := valid_of_perm hvalid hperm _ ha
      exact he.2.1
  · intro h
    have hsame : keys = sorted := by rw [← hkeys, sortByKey_eq_of_sorted _ h.perm.symm h.sorted]
    subst hsame
    have hover : overlapping keys = false :=
      (overlapping_eq_false hle).mpr ((pairwise_disjoint_iff hvalid hperm hle).mp h.disjoint)
    have hne : keys ≠ [] := by
      rintro rfl
      exact h.ne_nil (List.map_eq_nil_iff.mp hperm.symm.eq_nil)
    exact if_neg (not_or.mpr ⟨hne, by rw [hover]; decide⟩)

end Sorted

theorem stagesFrom_of_parse {table : List UInt8} {stages : List ExperienceStage}
    (h : parseTfsConfigExperienceStagesTable table = .ok stages) : table.length ≤ maxStageBytes ∧
      ∃ entries, TableText entries table ∧ entries.length ≤ maxStages ∧
        StagesFrom entries stages := by
  unfold parseTfsConfigExperienceStagesTable at h
  split_ifs at h with hsize
  · cases h
  · obtain ⟨found, hread, hvalidate⟩ := except_bind_eq_ok.mp h
    obtain ⟨entries, htext, hvalid, hcount, rfl⟩ := readTable_eq_ok.mp hread
    exact ⟨not_lt.mp hsize, entries, htext, hcount, (validate_eq_ok hvalid).mp hvalidate⟩

theorem parse_of_stagesFrom {table : List UInt8} {entries : List StageEntry}
    {stages : List ExperienceStage} (hsize : table.length ≤ maxStageBytes)
    (htext : TableText entries table) (hcount : entries.length ≤ maxStages)
    (hstages : StagesFrom entries stages) :
    parseTfsConfigExperienceStagesTable table = .ok stages := by
  have hread : (readTable table.length table).1 = .ok (entries.map StageEntry.stage) :=
    readTable_eq_ok.mpr ⟨entries, htext, hstages.valid, hcount, rfl⟩
  unfold parseTfsConfigExperienceStagesTable
  rw [if_neg (not_lt.mpr hsize)]
  exact except_bind_eq_ok.mpr ⟨_, hread, (validate_eq_ok hstages.valid).mpr hstages⟩

/-- **The scanner accepts exactly the grammar**, within its bounds. -/
theorem parse_table_eq_ok (table : List UInt8) (stages : List ExperienceStage) :
    parseTfsConfigExperienceStagesTable table = .ok stages ↔ table.length ≤ maxStageBytes ∧
      ∃ entries, TableText entries table ∧ entries.length ≤ maxStages ∧
        StagesFrom entries stages := by
  constructor
  · exact stagesFrom_of_parse
  · intro h
    obtain ⟨hsize, entries, htext, hcount, hstages⟩ := h
    exact parse_of_stagesFrom hsize htext hcount hstages

/-! ### The document -/

def documentTexts : StageTexts where
  noMinLevel := "stage lacks minlevel"
  noMultiplier := "stage lacks multiplier"
  invalid := "stage range or multiplier is invalid"

/-- One attribute of a stage; the last value of a field counts, and other names are passed over. -/
def readStageAttribute (fields : StageFields) (item : Except String XmlAttribute) :
    Except ConfigError StageFields := do
  let item ← item.mapError ConfigError.invalidContent
  let text ← (utf8 item.value).elim (.error (.invalidContent "stage attribute is not UTF-8")) .ok
  let value ← (parseUnsigned u32Max text.toList).elim
    (.error (.invalidContent "stage attribute is not an unsigned integer")) .ok
  match StageField.ofName item.key with
  | none => return fields
  | some field => return Function.update fields field (some value)

structure StagesState where
  rootSeen : Bool
  stages : List ExperienceStage

/-- One event of the document. -/
def readStagesEvent (self : StagesState) (event : Except String XmlEvent) :
    Except ConfigError StagesState := do
  let event ← event.mapError ConfigError.invalidContent
  match event with
  | .start name => if name = "stages" then return { self with rootSeen := true } else return self
  | .empty name attributes =>
    if name = "stage" then
      if maxStages ≤ self.stages.length then
        throw (.invalidContent "stage count exceeds limit")
      let fields ← attributes.foldlM readStageAttribute fun _ => none
      let stage ← stageOf documentTexts fields
      return { self with stages := self.stages ++ [stage] }
    else return self
  | _ => return self

def parseTfsStagesXml (read : XmlReader) (bytes : List UInt8) :
    Except ConfigError (List ExperienceStage) := do
  if maxStageBytes < bytes.length then
    throw (.invalidContent "stages.xml exceeds size limit")
  let state ← (read bytes).foldlM readStagesEvent ⟨false, []⟩
  if ¬state.rootSeen then
    throw (.invalidContent "stages.xml is malformed or does not have a stages root")
  validateExperienceStages state.stages "stages.xml"

/-- A tag, in contrast to what may stand between the tags. -/
def XmlEvent.isTag : XmlEvent → Bool
  | .start _ => true
  | .empty _ _ => true
  | .stop _ => true
  | _ => false

/-- The attributes that say an entry, in any order. -/
def ElementAttributes (e : StageEntry) (attributes : XmlAttributes) : Prop :=
  ∃ xs, Says xs e.fields ∧ List.Forall₂ (fun (x : StageField × ℕ) item => ∃ found : XmlAttribute,
    item = .ok found ∧ found.key = x.1.name ∧ Literal x.2 found.value) xs attributes

/-- The tags of an entry: one that closes itself, or an opening tag and a closing one. -/
def ElementTags (e : StageEntry × Bool) (tags : List XmlEvent) : Prop :=
  if e.2 then ∃ attributes, tags = [.empty "stage" attributes] ∧ ElementAttributes e.1 attributes
  else tags = [.start "stage", .stop "stage"]

/-- The events of a document with one element for each entry, and whatever stands between them. -/
def StagesDocument (entries : List (StageEntry × Bool)) (events : List (Except String XmlEvent)) :
    Prop :=
  ∃ (tags : List XmlEvent) (elements : List (List XmlEvent)), events = tags.map .ok ∧
    tags.filter XmlEvent.isTag = .start "stages" :: (elements.flatten ++ [.stop "stages"]) ∧
    List.Forall₂ ElementTags entries elements

/-- The entries whose elements close themselves. -/
def closedEntries (entries : List (StageEntry × Bool)) : List StageEntry :=
  (entries.filter Prod.snd).map Prod.fst

theorem utf8Bytes_ofList (cs : List Char) :
    utf8Bytes (String.ofList cs) = cs.flatMap String.utf8EncodeChar := by
  unfold utf8Bytes
  rw [String.toByteArray_ofList, List.utf8Encode]
  simp

theorem utf8EncodeChar_digit {b : UInt8} (h : isAsciiDigit b = true) :
    String.utf8EncodeChar (Char.ofNat b.toNat) = [b] := by
  have hrange : 48 ≤ b.toNat ∧ b.toNat ≤ 57 := by
    simpa [isAsciiDigit, UInt8.le_iff_toNat_le] using h
  have hbyte : b = UInt8.ofNat b.toNat := UInt8.ofNat_toNat.symm
  generalize b.toNat = n at hrange hbyte
  subst hbyte
  obtain ⟨hlow, hhigh⟩ := hrange
  interval_cases n <;> decide

theorem utf8_digits {digits : List UInt8} (h : ∀ b ∈ digits, isAsciiDigit b = true) :
    utf8 digits = some (String.ofList (asciiChars digits)) := by
  have hbytes : utf8Bytes (String.ofList (asciiChars digits)) = digits := by
    rw [utf8Bytes_ofList, asciiChars]
    induction digits with
    | nil => rfl
    | cons b digits ih =>
      obtain ⟨hb, hdigits⟩ := List.forall_mem_cons.mp h
      rw [List.map_cons, List.flatMap_cons, utf8EncodeChar_digit hb, ih hdigits]
      rfl
  have hutf8 := utf8_utf8Bytes (String.ofList (asciiChars digits))
  rwa [hbytes] at hutf8

/-- Of a literal the value is read. -/
theorem parseUnsigned_literal {value : ℕ} {digits : List UInt8} (h : Literal value digits) :
    (utf8 digits).bind (fun text => parseUnsigned u32Max text.toList) = some value := by
  obtain ⟨hne, hdigits, hvalue⟩ := h
  rw [utf8_digits hdigits, Option.bind_some, String.toList_ofList]
  exact (parseUnsigned_digits hne hdigits).mpr hvalue

theorem ofName_name (field : StageField) : StageField.ofName field.name = some field := by
  cases field <;> decide +kernel

theorem readStageAttribute_literal {fields : StageFields} {x : StageField × ℕ}
    {found : XmlAttribute} (hkey : found.key = x.1.name) (hvalue : Literal x.2 found.value) :
    readStageAttribute fields (.ok found) = .ok (Function.update fields x.1 (some x.2)) := by
  have hparse := parseUnsigned_literal hvalue
  rw [Option.bind_eq_some_iff] at hparse
  obtain ⟨text, htext, hparse⟩ := hparse
  unfold readStageAttribute
  simp only [Except.mapError, bind, Except.bind, htext, Option.elim_some, hparse, hkey, ofName_name]
  rfl

/-- The attributes of an entry are its fields, whatever their order. -/
theorem foldlM_attributes {xs : List (StageField × ℕ)} {attributes : XmlAttributes}
    {start fields : StageFields} (hxs : xs.foldlM addField start = some fields)
    (h : List.Forall₂ (fun (x : StageField × ℕ) item => ∃ found : XmlAttribute,
      item = .ok found ∧ found.key = x.1.name ∧ Literal x.2 found.value) xs attributes) :
    attributes.foldlM readStageAttribute start = .ok fields := by
  induction h generalizing start with
  | nil =>
    cases hxs
    rfl
  | cons hx _ ih =>
    obtain ⟨found, rfl, hkey, hvalue⟩ := hx
    rw [List.foldlM_cons, Option.bind_eq_bind, Option.bind_eq_some_iff] at hxs
    obtain ⟨mid, hmid, hrest⟩ := hxs
    obtain ⟨-, rfl⟩ := addField_eq_some.mp hmid
    rw [List.foldlM_cons, readStageAttribute_literal hkey hvalue]
    exact ih hrest

theorem ElementAttributes.fields_eq {e : StageEntry} {attributes : XmlAttributes}
    (h : ElementAttributes e attributes) :
    attributes.foldlM readStageAttribute (fun _ => none) = .ok e.fields := by
  obtain ⟨xs, hsaid, hattributes⟩ := h
  refine foldlM_attributes (foldlM_addField.mpr ⟨hsaid.1, fun _ _ => rfl, fun field value => ?_⟩)
    hattributes
  rw [hsaid.2]
  simp

theorem stageOf_fields {e : StageEntry} {stage : ExperienceStage} {texts : StageTexts} :
    stageOf texts e.fields = .ok stage ↔ e.Valid ∧ stage = e.stage := by
  rw [stageOf_eq_ok]
  constructor
  · intro h
    obtain ⟨other, hfields, hvalid, rfl⟩ := h
    have hmin : other.minLevel = e.minLevel := Option.some.inj (congrFun hfields .minLevel)
    have hmax : other.maxLevel = e.maxLevel := congrFun hfields .maxLevel
    have hmultiplier : other.multiplier = e.multiplier :=
      Option.some.inj (congrFun hfields .multiplier)
    have hsame : other = e := by
      cases other
      cases e
      simp_all
    exact hsame ▸ ⟨hvalid, rfl⟩
  · intro h
    exact ⟨e, rfl, h⟩

/-- An element that closes itself adds its entry. -/
theorem readStagesEvent_element {e : StageEntry} {attributes : XmlAttributes}
    (h : ElementAttributes e attributes) {rootSeen : Bool} {start : List ExperienceStage}
    {result : StagesState} :
    readStagesEvent ⟨rootSeen, start⟩ (.ok (.empty "stage" attributes)) = .ok result ↔
      addEntry start e = some result.stages ∧ result.rootSeen = rootSeen := by
  have hrun : readStagesEvent ⟨rootSeen, start⟩ (.ok (.empty "stage" attributes)) =
      if maxStages ≤ start.length then .error (.invalidContent "stage count exceeds limit")
      else (stageOf documentTexts e.fields).map fun stage => ⟨rootSeen, start ++ [stage]⟩ := by
    unfold readStagesEvent
    simp only [Except.mapError, bind, Except.bind, if_true, h.fields_eq]
    split_ifs with hlimit
    · rfl
    · cases stageOf documentTexts e.fields <;> rfl
  rw [hrun, addEntry_eq_some]
  split_ifs with hlimit
  · constructor
    · intro h
      cases h
    · intro h
      exact absurd h.1.1.1 (not_lt.mpr hlimit)
  · constructor
    · intro h
      cases hstage : stageOf documentTexts e.fields with
      | error fault =>
        rw [hstage] at h
        cases h
      | ok stage =>
        rw [hstage] at h
        cases h
        obtain ⟨hvalid, rfl⟩ := stageOf_fields.mp hstage
        exact ⟨⟨⟨not_le.mp hlimit, hvalid⟩, rfl⟩, rfl⟩
    · intro h
      obtain ⟨⟨⟨-, hvalid⟩, hstages⟩, hroot⟩ := h
      rw [stageOf_fields.mpr ⟨hvalid, rfl⟩, ← hroot]
      show Except.ok (⟨result.rootSeen, start ++ [e.stage]⟩ : StagesState) = _
      rw [hstages]

/-- The elements of a document, one after the other. -/
theorem foldlM_elements {entries : List (StageEntry × Bool)} {elements : List (List XmlEvent)}
    (h : List.Forall₂ ElementTags entries elements) {rootSeen : Bool}
    {start : List ExperienceStage} {result : StagesState} :
    (elements.flatten.map Except.ok).foldlM readStagesEvent ⟨rootSeen, start⟩ = .ok result ↔
      (closedEntries entries).foldlM addEntry start = some result.stages ∧
        result.rootSeen = rootSeen := by
  induction h generalizing start with
  | nil =>
    constructor
    · intro h
      cases h
      exact ⟨rfl, rfl⟩
    · intro h
      obtain ⟨hstages, rfl⟩ := h
      cases hstages
      rfl
  | @cons e tags entries elements htags _ ih =>
    obtain ⟨entry, closed⟩ := e
    unfold ElementTags at htags
    cases closed with
    | true =>
      obtain ⟨attributes, rfl, hattributes⟩ := htags
      have hclosed : closedEntries ((entry, true) :: entries) = entry :: closedEntries entries :=
        rfl
      rw [hclosed, List.foldlM_cons, Option.bind_eq_bind, Option.bind_eq_some_iff,
        List.flatten_cons, List.singleton_append, List.map_cons, List.foldlM_cons,
        except_bind_eq_ok]
      simp only [readStagesEvent_element hattributes]
      constructor
      · intro h
        obtain ⟨mid, ⟨hadd, hroot⟩, hrest⟩ := h
        rw [show mid = ⟨rootSeen, mid.stages⟩ by rw [← hroot]] at hrest
        obtain ⟨hstages, hseen⟩ := ih.mp hrest
        exact ⟨⟨mid.stages, hadd, hstages⟩, hseen⟩
      · intro h
        obtain ⟨⟨stages, hadd, hstages⟩, hseen⟩ := h
        exact ⟨⟨rootSeen, stages⟩, ⟨hadd, rfl⟩, ih.mpr ⟨hstages, hseen⟩⟩
    | false =>
      obtain rfl : tags = [.start "stage", .stop "stage"] := htags
      exact ih

/-- What stands between the tags is passed over. -/
theorem foldlM_tags (tags : List XmlEvent) (start : StagesState) :
    (tags.map Except.ok).foldlM readStagesEvent start =
      ((tags.filter XmlEvent.isTag).map Except.ok).foldlM readStagesEvent start := by
  induction tags generalizing start with
  | nil => rfl
  | cons tag tags ih =>
    have hstep : XmlEvent.isTag tag = false → readStagesEvent start (.ok tag) = .ok start := by
      intro htag
      cases tag with
      | start name => cases htag
      | empty name attributes => cases htag
      | stop name => cases htag
      | _ => rfl
    cases htag : XmlEvent.isTag tag with
    | true =>
      rw [List.filter_cons_of_pos htag, List.map_cons, List.map_cons, List.foldlM_cons,
        List.foldlM_cons]
      simp only [ih]
    | false =>
      rw [List.filter_cons_of_neg (by rw [htag]; decide), List.map_cons, List.foldlM_cons,
        hstep htag]
      exact ih start

/-- A document with one element of either form, and a comment between them. -/
def twoElements : List XmlEvent :=
  [.declaration, .start "stages",
    .empty "stage" [.ok ⟨"maxlevel", [56], .ok "8"⟩, .ok ⟨"minlevel", [49], .ok "1"⟩,
      .ok ⟨"multiplier", [55], .ok "7"⟩],
    .comment, .start "stage", .stop "stage", .stop "stages"]

def maxExperienceAwardRate : ℕ := 100000

/-- `ExperienceAwardPolicy::new`; it has one error only. -/
def ExperienceAwardPolicy.new (flatRate : ℕ) (stages : List ExperienceAwardStage) :
    Option ExperienceAwardPolicy :=
  if maxExperienceAwardRate < flatRate ∨
      (stages.zip stages.tail).any (fun pair => pair.2.minLevel ≤ pair.1.maxLevel) then none
  else some ⟨flatRate, stages⟩

/-- `ExperienceStages::award_policy` -/
def awardPolicy (stages : List ExperienceStage) (experienceRate : ℕ) :
    Option ExperienceAwardPolicy := do
  let stages ← stages.mapM fun stage =>
    ExperienceAwardStage.new stage.minLevel stage.maxLevel stage.multiplierMilli
  ExperienceAwardPolicy.new experienceRate stages

/-- The entry counts at a level. -/
def StageEntry.At (self : StageEntry) (level : ℕ) : Prop :=
  self.minLevel ≤ level ∧ level ≤ self.lastLevel

section Awards

variable {entries : List StageEntry} {stages : List ExperienceStage}

def ExperienceStage.award (self : ExperienceStage) : ExperienceAwardStage :=
  ⟨self.minLevel, self.maxLevel, self.multiplierMilli⟩

theorem StagesFrom.disjoint_stages (h : StagesFrom entries stages) :
    stages.Pairwise fun a b => Disjoint a.levels b.levels := by
  rw [h.perm.pairwise_iff fun hab => hab.symm, List.pairwise_map]
  exact h.disjoint

theorem StagesFrom.policy (h : StagesFrom entries stages) {rate : ℕ}
    (hrate : rate ≤ maxExperienceAwardRate) :
    awardPolicy stages rate = some ⟨rate, stages.map ExperienceStage.award⟩ := by
  have hawards : stages.mapM (fun stage => ExperienceAwardStage.new stage.minLevel stage.maxLevel
      stage.multiplierMilli) = some (stages.map ExperienceStage.award) := by
    have hvalid := valid_of_perm h.valid h.perm
    clear h
    induction stages with
    | nil => rfl
    | cons stage stages ih =>
      obtain ⟨e, he, rfl⟩ := hvalid stage List.mem_cons_self
      rw [List.mapM_cons, awardStage_of_valid he,
        ih fun s hs => hvalid s (List.mem_cons_of_mem _ hs)]
      rfl
  have hle := h.sorted.imp le_of_lt
  have hover := (overlapping_eq_false hle).mpr
    ((pairwise_disjoint_iff h.valid h.perm hle).mp h.disjoint)
  have hmap : ((stages.map ExperienceStage.award).zip (stages.map ExperienceStage.award).tail).any
      (fun pair => pair.2.minLevel ≤ pair.1.maxLevel) = overlapping stages := by
    rw [← List.map_tail, List.zip_map, List.any_map]
    rfl
  unfold awardPolicy
  rw [hawards]
  show ExperienceAwardPolicy.new rate (stages.map ExperienceStage.award) = _
  unfold ExperienceAwardPolicy.new
  rw [hmap, hover, if_neg (by simpa using hrate)]

/-- The stage of an entry is found at its levels. -/
theorem StagesFrom.find_at (h : StagesFrom entries stages) {e : StageEntry} (he : e ∈ entries)
    {level : ℕ} (hlevel : e.At level) :
    (stages.map ExperienceStage.award).find? (fun stage =>
      stage.minLevel ≤ level ∧ level ≤ stage.maxLevel) = some e.stage.award := by
  have hstage : e.stage ∈ stages := h.perm.mem_iff.mpr (List.mem_map_of_mem he)
  rw [List.find?_map]
  have hfound : stages.find? (fun stage => stage.award.minLevel ≤ level ∧
      level ≤ stage.award.maxLevel) = some e.stage := by
    cases hfind : stages.find? (fun stage => stage.award.minLevel ≤ level ∧
        level ≤ stage.award.maxLevel) with
    | none =>
      have hat : e.stage.award.minLevel ≤ level ∧ level ≤ e.stage.award.maxLevel := hlevel
      exact absurd (decide_eq_true hat) (List.find?_eq_none.mp hfind e.stage hstage)
    | some stage =>
      have hmem := List.mem_of_find?_eq_some hfind
      have hfits := List.find?_some hfind
      have hin : stage.award.minLevel ≤ level ∧ level ≤ stage.award.maxLevel :=
        of_decide_eq_true hfits
      have hsymm : Std.Symm fun a b : ExperienceStage => Disjoint a.levels b.levels :=
        ⟨fun _ _ hab => hab.symm⟩
      by_contra hne
      have hdisjoint : Disjoint stage.levels e.stage.levels :=
        h.disjoint_stages.forall hmem hstage fun heq => hne (by rw [heq])
      exact Set.disjoint_left.mp hdisjoint hin hlevel
  exact congrArg (Option.map ExperienceStage.award) hfound

theorem StagesFrom.find_outside (h : StagesFrom entries stages) {level : ℕ}
    (hlevel : ∀ e ∈ entries, ¬e.At level) :
    (stages.map ExperienceStage.award).find? (fun stage =>
      stage.minLevel ≤ level ∧ level ≤ stage.maxLevel) = none := by
  rw [List.find?_eq_none]
  intro award haward
  obtain ⟨stage, hstage, rfl⟩ := List.mem_map.mp haward
  obtain ⟨e, he, rfl⟩ := List.mem_map.mp (h.perm.mem_iff.mp hstage)
  intro hfits
  have hat : e.stage.award.minLevel ≤ level ∧ level ≤ e.stage.award.maxLevel :=
    of_decide_eq_true hfits
  exact hlevel e he hat

end Awards

/-- **A table means what its entries say**: accepted stages make a policy at every rate within the
limit, and a level is awarded by the one entry that is for it, wherever it stands in the table. -/
theorem award_of_table (table : List UInt8) (stages : List ExperienceStage)
    (h : parseTfsConfigExperienceStagesTable table = .ok stages) :
    ∃ entries, TableText entries table ∧ ∀ rate ≤ maxExperienceAwardRate,
      ∃ policy, awardPolicy stages rate = some policy ∧
        ∀ level raw, (∀ e ∈ entries, e.At level →
            policy.awardFor level raw =
              saturatingMul (saturatingMul raw rate) (e.multiplier * 1000) / 1000) ∧
          ((∀ e ∈ entries, ¬e.At level) →
            policy.awardFor level raw = saturatingMul (saturatingMul raw rate) 1000 / 1000) := by
  obtain ⟨-, entries, htext, -, hstages⟩ := stagesFrom_of_parse h
  refine ⟨entries, htext, fun rate hrate => ⟨_, hstages.policy hrate, fun level raw => ⟨?_, ?_⟩⟩⟩
  · intro e he hlevel
    unfold ExperienceAwardPolicy.awardFor
    rw [hstages.find_at he hlevel]
    rfl
  · intro hlevel
    unfold ExperienceAwardPolicy.awardFor
    rw [hstages.find_outside hlevel]
    rfl

/-- The text of one entry without a highest level. -/
def oneStage : List UInt8 := utf8Bytes "{ {minlevel=9,multiplier=3} }"

theorem oneStage_text : TableText [⟨9, none, 3⟩] oneStage := by
  have hblank : IsBlank [32] := List.forall_mem_singleton.mpr (by decide)
  have hmin : FieldText (.minLevel, 9) (nameBytes .minLevel ++ [61, 57]) :=
    ⟨[], [], [], [57], blanks_nil, blanks_nil, blanks_nil,
      ⟨by decide, by decide +kernel, by decide +kernel, by decide⟩, rfl⟩
  have hmultiplier : FieldText (.multiplier, 3) (nameBytes .multiplier ++ [61, 51]) :=
    ⟨[], [], [], [51], blanks_nil, blanks_nil, blanks_nil,
      ⟨by decide, by decide +kernel, by decide +kernel, by decide⟩, rfl⟩
  have hsaid : Says [(.minLevel, 9), (.multiplier, 3)] (StageEntry.fields ⟨9, none, 3⟩) := by
    refine ⟨by decide, fun field value => ?_⟩
    cases field <;> simp [StageEntry.fields, eq_comm]
  refine ⟨[], _, [], blanks_nil, .last ⟨_, [32], _, hsaid, hblank,
    .more hmin blanks_nil (.last hmultiplier blanks_nil), rfl⟩ hblank, blanks_nil, ?_⟩
  decide +kernel

theorem oneStage_award : ∃ entries, TableText entries oneStage ∧
    ∀ rate ≤ maxExperienceAwardRate, ∃ policy, awardPolicy [⟨9, u32Max, 3000⟩] rate = some policy ∧
      ∀ level raw, (∀ e ∈ entries, e.At level → policy.awardFor level raw =
          saturatingMul (saturatingMul raw rate) (e.multiplier * 1000) / 1000) ∧
        ((∀ e ∈ entries, ¬e.At level) →
          policy.awardFor level raw = saturatingMul (saturatingMul raw rate) 1000 / 1000) := by
  have hstages : StagesFrom [⟨9, none, 3⟩] [⟨9, u32Max, 3000⟩] :=
    ⟨by decide, by decide, List.pairwise_singleton _ _, List.Perm.refl _,
      List.pairwise_singleton _ _⟩
  exact award_of_table oneStage _
    (parse_of_stagesFrom (by decide +kernel) oneStage_text (by decide) hstages)

end ForgottenEngine
