import SignalForge.SchemaRegistry
import SignalForge.TextSplitting

/-! The two recognisers of schema versions: the envelope's pattern and `parse_version`. -/

set_option autoImplicit false

section

variable {α β ε : Type}

theorem Except.forM_eq_ok {check : α → Except ε Unit} {items : List α} :
    items.forM check = .ok () ↔ ∀ item ∈ items, check item = .ok () := by
  induction items with
  | nil => exact iff_of_true rfl fun _ none => absurd none List.not_mem_nil
  | cons item rest ih =>
      change (check item >>= fun _ => rest.forM check) = .ok () ↔ _
      rw [Except.check_bind_eq_ok, ih, List.forall_mem_cons]

theorem Except.mapM_returns {convert : α → Except ε β} {items : List α} :
    (∃ results, items.mapM convert = .ok results) ↔
      ∀ item ∈ items, ∃ result, convert item = .ok result := by
  induction items with
  | nil => exact iff_of_true ⟨[], rfl⟩ fun _ none => absurd none List.not_mem_nil
  | cons item rest ih =>
      rw [List.forall_mem_cons, ← ih]
      simp only [List.mapM_cons, Except.bind_eq_ok]
      constructor
      · rintro ⟨_, result, here, results, later, _⟩
        exact ⟨⟨result, here⟩, results, later⟩
      · rintro ⟨⟨result, here⟩, results, later⟩
        exact ⟨_, result, here, results, later, rfl⟩

/-- Sequencing without a state: one of the parts raises. -/
theorem Except.bind_eq_error {first : Except ε α} {next : α → Except ε β} {reason : ε} :
    (first >>= next) = .error reason ↔
      first = .error reason ∨ ∃ value, first = .ok value ∧ next value = .error reason := by
  cases first with
  | error raised => simp [bind, Except.bind]
  | ok value => simp [bind, Except.bind]

theorem Except.exists_of_forM_error {check : α → Except ε Unit} {items : List α} {reason : ε}
    (failed : items.forM check = .error reason) : ∃ item ∈ items, check item = .error reason := by
  induction items with
  | nil => cases failed
  | cons item rest ih =>
      rcases Except.bind_eq_error.mp failed with here | ⟨_, _, later⟩
      · exact ⟨item, List.mem_cons_self .., here⟩
      · obtain ⟨other, listed, refused⟩ := ih later
        exact ⟨other, List.mem_cons_of_mem _ listed, refused⟩

theorem Except.exists_of_mapM_error {convert : α → Except ε β} {items : List α} {reason : ε}
    (failed : items.mapM convert = .error reason) :
    ∃ item ∈ items, convert item = .error reason := by
  induction items with
  | nil => cases failed
  | cons item rest ih =>
      rw [List.mapM_cons] at failed
      rcases Except.bind_eq_error.mp failed with here | ⟨_, _, after⟩
      · exact ⟨item, List.mem_cons_self .., here⟩
      · rcases Except.bind_eq_error.mp after with later | ⟨_, _, joined⟩
        · obtain ⟨other, listed, refused⟩ := ih later
          exact ⟨other, List.mem_cons_of_mem _ listed, refused⟩
        · cases joined

theorem Option.mapM_isSome {convert : α → Option β} {items : List α} :
    (items.mapM convert).isSome = true ↔ ∀ item ∈ items, (convert item).isSome = true := by
  induction items with
  | nil => exact iff_of_true rfl fun _ none => absurd none List.not_mem_nil
  | cons item rest ih =>
      rw [List.forall_mem_cons, ← ih, List.mapM_cons]
      cases convert item with
      | none => exact iff_of_false Bool.false_ne_true fun both => Bool.false_ne_true both.1
      | some result => cases rest.mapM convert <;> simp

end

namespace SignalForge

namespace SchemaVersion

variable {digits : DecimalDigits} {version : String}

/-- A component both checked and converted. -/
structure Readable (digits : DecimalDigits) (component : Str) : Prop where
  nonempty : component ≠ []
  decimal : ∀ c ∈ component, digits.isDigit c = true ∧ (digits.value? c).isSome = true
  noLeadingZero : ¬ (1 < component.length ∧ component.head? = some '0')
  short : component.length ≤ maxStrDigits

theorem checkComponent_eq_ok {component : Str} :
    checkComponent digits version component = .ok () ↔
      (∀ c ∈ component, digits.isDigit c = true) ∧
        ¬ (1 < component.length ∧ component.head? = some '0') := by
  rw [checkComponent, ← List.all_eq_true]
  by_cases decimal : component.all digits.isDigit = true
  · by_cases zero : 1 < component.length ∧ component.head? = some '0'
    · simp only [decimal, zero, not_true_eq_false, ↓reduceIte, reduceCtorEq, and_false, and_self]
    · simp only [decimal, zero, not_true_eq_false, ↓reduceIte, not_false_eq_true, and_self]
  · simp only [decimal, not_false_eq_true, ↓reduceIte, reduceCtorEq, Bool.false_eq_true, false_and]

theorem convertComponent_returns {component : Str} :
    (∃ number, convertComponent digits component = .ok number) ↔
      (∀ c ∈ component, (digits.value? c).isSome = true) ∧ component.length ≤ maxStrDigits := by
  rw [convertComponent, ← Option.mapM_isSome]
  cases component.mapM digits.value? with
  | none => simp
  | some values =>
      by_cases long : maxStrDigits < component.length
      · simp only [long, ↓reduceIte, reduceCtorEq, exists_false, Option.isSome_some, true_and,
          Nat.not_le.mpr long]
      · simp only [long, ↓reduceIte, Except.ok.injEq, exists_eq', Option.isSome_some, true_and,
          Nat.not_lt.mp long]

theorem parseComponents_eq_ok {components : List Str} {parsed : SchemaVersion} :
    parseComponents digits version components = .ok parsed ↔ ∃ numbers,
      (∀ component ∈ components, component ≠ []) ∧ components.length ≤ 3 ∧
      (∀ component ∈ components, checkComponent digits version component = .ok ()) ∧
      components.mapM (convertComponent digits) = .ok numbers ∧
      parsed = ⟨numbers.getD 0 0, numbers.getD 1 0, numbers.getD 2 0⟩ := by
  have filled : (∀ component ∈ components, component ≠ []) ↔ ¬ components.any (· = []) = true := by
    simp only [List.any_eq_true, decide_eq_true_eq, not_exists, not_and, ne_eq]
  rw [parseComponents, filled]
  by_cases empty : components.any (· = []) = true
  · rw [if_pos empty]
    exact iff_of_false (fun failed => by cases failed) fun ⟨_, nonempty, _⟩ => nonempty empty
  · rw [if_neg empty]
    by_cases many : 3 < components.length
    · rw [if_pos many]
      exact iff_of_false (fun failed => by cases failed) fun ⟨_, _, few, _⟩ => by omega
    · rw [if_neg many, Except.check_bind_eq_ok, Except.forM_eq_ok, Except.bind_eq_ok]
      constructor
      · rintro ⟨checked, numbers, converted, returned⟩
        exact ⟨numbers, empty, Nat.not_lt.mp many, checked, converted,
          (Except.ok.inj returned).symm⟩
      · rintro ⟨numbers, _, _, checked, converted, rfl⟩
        exact ⟨checked, numbers, converted, rfl⟩

/-- What `parse_version` has checked where it returns, and what it returns. -/
theorem parse_eq_ok {parsed : SchemaVersion} :
    parse digits version = .ok parsed ↔ ∃ rest numbers, version.toList = 'v' :: rest ∧
      (∀ component ∈ rest.splitOn '.', component ≠ []) ∧ (rest.splitOn '.').length ≤ 3 ∧
      (∀ component ∈ rest.splitOn '.', checkComponent digits version component = .ok ()) ∧
      (rest.splitOn '.').mapM (convertComponent digits) = .ok numbers ∧
      parsed = ⟨numbers.getD 0 0, numbers.getD 1 0, numbers.getD 2 0⟩ := by
  rw [parse]
  split
  · rename_i c rest spelled
    rw [Text.split_eq_splitOn, parseComponents_eq_ok]
    constructor
    · exact fun ⟨numbers, returned⟩ => ⟨c :: rest, numbers, spelled, returned⟩
    · rintro ⟨_, numbers, same, returned⟩
      obtain rfl := (List.cons.inj (spelled.symm.trans same)).2
      exact ⟨numbers, returned⟩
  · rename_i other
    refine iff_of_false (fun failed => by cases failed) ?_
    rintro ⟨rest, _, spelled, nonempty, _⟩
    cases rest with
    | nil => exact nonempty [] (List.mem_singleton_self _) rfl
    | cons c rest => exact other c rest spelled

theorem parse_returns :
    (∃ parsed, parse digits version = .ok parsed) ↔ ∃ rest, version.toList = 'v' :: rest ∧
      (rest.splitOn '.').length ≤ 3 ∧ ∀ component ∈ rest.splitOn '.', Readable digits component := by
  simp only [parse_eq_ok, checkComponent_eq_ok]
  constructor
  · rintro ⟨_, rest, numbers, spelled, nonempty, few, checked, converted, _⟩
    refine ⟨rest, spelled, few, fun component listed => ?_⟩
    have returned := Except.mapM_returns.mp ⟨numbers, converted⟩ component listed
    obtain ⟨readable, short⟩ := convertComponent_returns.mp returned
    obtain ⟨decimal, noLeadingZero⟩ := checked component listed
    exact ⟨nonempty component listed, fun c member => ⟨decimal c member, readable c member⟩,
      noLeadingZero, short⟩
  · rintro ⟨rest, spelled, few, readable⟩
    obtain ⟨numbers, converted⟩ := Except.mapM_returns.mpr fun component listed =>
      convertComponent_returns.mpr
        ⟨fun c member => ((readable component listed).decimal c member).2,
          (readable component listed).short⟩
    exact ⟨_, rest, numbers, spelled, fun component listed => (readable component listed).nonempty,
      few, fun component listed => ⟨fun c member => ((readable component listed).decimal c member).1,
        (readable component listed).noLeadingZero⟩, converted, rfl⟩

end SchemaVersion

/-- The digit tables as they are documented: every digit that `int` reads, `isdigit` knows. -/
structure DigitTables extends DecimalDigits where
  isDigit_of_value : ∀ c : Char, (value? c).isSome = true → isDigit c = true

namespace EventMetadata

/-- `v\d+(\.\d+)*`, the whole of a text. -/
def isDotted (digits : DecimalDigits) : Str → Bool
  | 'v' :: rest => (rest.splitOn '.').all fun component =>
      component ≠ [] && component.all fun c => (digits.value? c).isSome
  | _ => false

/-- The texts the envelope takes for a version and `parse_version` refuses. -/
inductive Disputed (digits : DecimalDigits) : Str → Prop
  | newline {text : Str} (dotted : isDotted digits text = true) :
      Disputed digits (text ++ [Char.ofNat 10])
  | manyComponents {rest : Str} (dotted : isDotted digits ('v' :: rest) = true)
      (many : 3 < (rest.splitOn '.').length) : Disputed digits ('v' :: rest)
  | leadingZero {rest component : Str} (dotted : isDotted digits ('v' :: rest) = true)
      (listed : component ∈ rest.splitOn '.') (long : 1 < component.length)
      (zero : component.head? = some '0') : Disputed digits ('v' :: rest)
  | longComponent {rest component : Str} (dotted : isDotted digits ('v' :: rest) = true)
      (listed : component ∈ rest.splitOn '.')
      (long : SchemaVersion.maxStrDigits < component.length) : Disputed digits ('v' :: rest)

section

variable {digits : DecimalDigits} {text rest : Str} {version : String}

theorem isDotted_v : isDotted digits ('v' :: rest) = true ↔
    ∀ component ∈ rest.splitOn '.',
      component ≠ [] ∧ ∀ c ∈ component, (digits.value? c).isSome = true := by
  simp only [isDotted, List.all_eq_true, Bool.and_eq_true, decide_eq_true_eq]

theorem exists_of_isDotted (dotted : isDotted digits text = true) : ∃ rest, text = 'v' :: rest := by
  unfold isDotted at dotted
  split at dotted
  · exact ⟨_, rfl⟩
  · cases dotted

theorem isDotted_other (other : ∀ rest, text = 'v' :: rest → False) :
    isDotted digits text = false := by
  rw [← Bool.not_eq_true]
  intro dotted
  obtain ⟨rest, spelled⟩ := exists_of_isDotted dotted
  exact other rest spelled

theorem isSchemaVersion_eq (digits : DecimalDigits) (version : String) :
    isSchemaVersion digits version = matchesToEnd (isDotted digits) version.toList := by
  unfold isSchemaVersion
  congr 1
  funext text
  split
  · rw [Text.split_eq_splitOn]
    rfl
  · rename_i other
    exact (isDotted_other other).symm

theorem isSchemaVersion_iff : isSchemaVersion digits version = true ↔
    isDotted digits version.toList = true ∨
      ∃ text, version.toList = text ++ [Char.ofNat 10] ∧ isDotted digits text = true := by
  rw [isSchemaVersion_eq, matchesToEnd]
  simp only [Bool.or_eq_true, Bool.and_eq_true, decide_eq_true_eq]
  refine or_congr Iff.rfl ⟨?_, ?_⟩
  · rintro ⟨last, dotted⟩
    exact ⟨_, (List.dropLast_append_getLast? _ last).symm, dotted⟩
  · rintro ⟨text, same, dotted⟩
    rw [same, List.getLast?_append, List.dropLast_concat]
    exact ⟨rfl, dotted⟩

/-- A text `parse_version` takes is one the pattern matches to its end. -/
theorem isDotted_of_parse {parsed : SchemaVersion}
    (returned : SchemaVersion.parse digits version = .ok parsed) :
    isDotted digits version.toList = true := by
  obtain ⟨rest, spelled, _, readable⟩ := SchemaVersion.parse_returns.mp ⟨parsed, returned⟩
  rw [spelled, isDotted_v]
  exact fun component listed => ⟨(readable component listed).nonempty,
    fun c member => ((readable component listed).decimal c member).2⟩

theorem not_parse_of_newline {parsed : SchemaVersion} (ends : version.toList = text ++ [Char.ofNat 10])
    (dotted : isDotted digits text = true) :
    SchemaVersion.parse digits version ≠ .ok parsed := by
  intro returned
  obtain ⟨rest, rfl⟩ := exists_of_isDotted dotted
  obtain ⟨_, spelled, _, readable⟩ := SchemaVersion.parse_returns.mp ⟨parsed, returned⟩
  obtain rfl := (List.cons.inj (ends.symm.trans spelled)).2
  have last : Char.ofNat 10 ∈ rest ++ [Char.ofNat 10] :=
    List.mem_append_right _ (List.mem_singleton_self _)
  have apart : Char.ofNat 10 ≠ '.' := by decide
  obtain ⟨component, listed, member⟩ := Text.exists_mem_splitOn last apart
  have digit := ((readable component listed).decimal _ member).1
  rw [digits.isDigit_ascii _ (by decide)] at digit
  cases digit

theorem isSchemaVersion_of_disputed (disputed : Disputed digits version.toList) :
    isSchemaVersion digits version = true ∧
      ∀ parsed, SchemaVersion.parse digits version ≠ .ok parsed := by
  generalize spelled : version.toList = text at disputed
  cases disputed with
  | newline dotted =>
      exact ⟨isSchemaVersion_iff.mpr (Or.inr ⟨_, spelled, dotted⟩),
        fun _ => not_parse_of_newline spelled dotted⟩
  | manyComponents dotted many =>
      refine ⟨isSchemaVersion_iff.mpr (Or.inl (spelled ▸ dotted)), fun parsed returned => ?_⟩
      obtain ⟨_, same, few, _⟩ := SchemaVersion.parse_returns.mp ⟨parsed, returned⟩
      obtain rfl := (List.cons.inj (spelled.symm.trans same)).2
      omega
  | leadingZero dotted listed long zero =>
      refine ⟨isSchemaVersion_iff.mpr (Or.inl (spelled ▸ dotted)), fun parsed returned => ?_⟩
      obtain ⟨_, same, _, readable⟩ := SchemaVersion.parse_returns.mp ⟨parsed, returned⟩
      obtain rfl := (List.cons.inj (spelled.symm.trans same)).2
      exact (readable _ listed).noLeadingZero ⟨long, zero⟩
  | longComponent dotted listed long =>
      refine ⟨isSchemaVersion_iff.mpr (Or.inl (spelled ▸ dotted)), fun parsed returned => ?_⟩
      obtain ⟨_, same, _, readable⟩ := SchemaVersion.parse_returns.mp ⟨parsed, returned⟩
      obtain rfl := (List.cons.inj (spelled.symm.trans same)).2
      exact absurd (readable _ listed).short (Nat.not_le.mpr long)

end

/-- Apart from the disputed texts, what the pattern matches is parsed. -/
theorem parse_of_isSchemaVersion {tables : DigitTables} {version : String}
    (undisputed : ¬ Disputed tables.toDecimalDigits version.toList)
    (accepted : isSchemaVersion tables.toDecimalDigits version = true) :
    ∃ parsed, SchemaVersion.parse tables.toDecimalDigits version = .ok parsed := by
  rcases isSchemaVersion_iff.mp accepted with dotted | ⟨text, ends, dotted⟩
  · obtain ⟨rest, spelled⟩ := exists_of_isDotted dotted
    rw [spelled] at undisputed dotted
    have each := isDotted_v.mp dotted
    refine SchemaVersion.parse_returns.mpr ⟨rest, spelled, ?_, fun component listed => ?_⟩
    · exact Nat.not_lt.mp fun many => undisputed (.manyComponents dotted many)
    · refine ⟨(each component listed).1, fun c member => ?_, ?_, ?_⟩
      · have readable := (each component listed).2 c member
        exact ⟨tables.isDigit_of_value c readable, readable⟩
      · exact fun zero => undisputed (.leadingZero dotted listed zero.1 zero.2)
      · exact Nat.not_lt.mp fun long => undisputed (.longComponent dotted listed long)
  · rw [ends] at undisputed
    exact absurd (Disputed.newline dotted) undisputed

/-- The envelope and `parse_version` agree on a text exactly where it is not one of the disputed. -/
theorem isSchemaVersion_iff_parse (tables : DigitTables) (version : String) :
    (isSchemaVersion tables.toDecimalDigits version = true ↔
        ∃ parsed, SchemaVersion.parse tables.toDecimalDigits version = .ok parsed) ↔
      ¬ Disputed tables.toDecimalDigits version.toList := by
  constructor
  · intro agree disputed
    obtain ⟨accepted, refused⟩ := isSchemaVersion_of_disputed disputed
    obtain ⟨parsed, returned⟩ := agree.mp accepted
    exact refused parsed returned
  · intro undisputed
    refine ⟨parse_of_isSchemaVersion undisputed, ?_⟩
    rintro ⟨parsed, returned⟩
    exact isSchemaVersion_iff.mpr (Or.inl (isDotted_of_parse returned))

section Sample

open RealtimePipeline (sampleDigits)

theorem isDigit_of_sampleDigits (c : Char) (valued : (sampleDigits.value? c).isSome = true) :
    sampleDigits.isDigit c = true := by
  by_cases digit : c.isDigit = true
  · exact digit
  · simp [sampleDigits, digit] at valued

def sampleTables : DigitTables := ⟨sampleDigits, isDigit_of_sampleDigits⟩

/-- Two components, both sides take. -/
theorem isSchemaVersion_iff_parse_two :
    isSchemaVersion sampleDigits "v1.10" = true ∧
      ¬ Disputed sampleDigits "v1.10".toList := by
  have accepted : isSchemaVersion sampleDigits "v1.10" = true := by decide +kernel
  have parsed : SchemaVersion.parse sampleDigits "v1.10" = .ok ⟨1, 10, 0⟩ := by decide +kernel
  exact ⟨accepted, (isSchemaVersion_iff_parse sampleTables "v1.10").mp
    (iff_of_true accepted ⟨_, parsed⟩)⟩

/-- Four components: an event of this version is valid, and resolving it raises. -/
theorem four_components_disputed :
    ¬ (isSchemaVersion sampleDigits "v1.0.0.0" = true ↔
      ∃ parsed, SchemaVersion.parse sampleDigits "v1.0.0.0" = .ok parsed) := by
  intro agree
  obtain ⟨parsed, returned⟩ := agree.mp (by decide +kernel)
  revert returned
  rw [show SchemaVersion.parse sampleDigits "v1.0.0.0" =
    .error (.valueError "Unsupported schema format: v1.0.0.0") by rfl]
  exact fun impossible => by cases impossible

end Sample

end EventMetadata

end SignalForge
