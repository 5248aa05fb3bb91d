import Mathlib.Data.String.Basic
import SignalForge.EventRouterResolution
import SignalForge.VersionGrammar

/-! The router's fallback, which compares versions as they are spelled, and when it resolves to the
version the numeric comparison does. -/

set_option autoImplicit false

namespace SignalForge.EventRouter

/-- `version.split(".", 1)[0]`. -/
def majorPrefix (version : String) : Str :=
  ((Text.splitOnce ['.'] version.toList).map Prod.fst).getD version.toList

/-- A registered key of the requested type and major prefix, spelled no later than requested. -/
def withinSpelling (requested key : RouteKey) : Bool :=
  key.eventType = requested.eventType &&
    majorPrefix key.schemaVersion = majorPrefix requested.schemaVersion &&
    key.schemaVersion ≤ requested.schemaVersion

def spelledNoLater (left right : RouteKey) : Bool := left.schemaVersion ≤ right.schemaVersion

/-- `_resolve_compatible_key_fallback`; `max` keeps the first of the greatest. -/
def resolveCompatibleKeyFallback (requested : RouteKey) (registered : List RouteKey) :
    Option RouteKey :=
  FirstGreatest.pick spelledNoLater (registered.filter (withinSpelling requested))

theorem spelledNoLater_total (left right : RouteKey) :
    spelledNoLater left right = true ∨ spelledNoLater right left = true := by
  simp only [spelledNoLater, decide_eq_true_eq]
  exact le_total _ _

theorem spelledNoLater_trans (left middle right : RouteKey)
    (first : spelledNoLater left middle = true) (second : spelledNoLater middle right = true) :
    spelledNoLater left right = true := by
  simp only [spelledNoLater, decide_eq_true_eq] at *
  exact le_trans first second

/-- What the fallback resolves to: of the keys spelled within the request, one spelled latest. -/
theorem fallback_some {requested found : RouteKey} {keys : List RouteKey}
    (resolved : resolveCompatibleKeyFallback requested keys = some found) :
    found ∈ keys ∧ withinSpelling requested found = true ∧
      ∀ other ∈ keys, withinSpelling requested other = true →
        other.schemaVersion ≤ found.schemaVersion := by
  rw [resolveCompatibleKeyFallback, ← List.filterMap_eq_filter] at resolved
  obtain ⟨key, among⟩ := FirstGreatest.among_of_pick spelledNoLater_total spelledNoLater_trans
    resolved
  have guarded : ∀ {key item : RouteKey}, Option.guard (withinSpelling requested) key = some item ↔
      key = item ∧ withinSpelling requested key = true := Option.guard_eq_some_iff
  obtain ⟨rfl, within⟩ := guarded.mp among.ranked
  refine ⟨among.mem, within, fun other listed otherWithin => ?_⟩
  exact of_decide_eq_true (among.greatest spelledNoLater_total listed
    (guarded.mpr ⟨rfl, otherWithin⟩))

theorem fallback_none {requested : RouteKey} {keys : List RouteKey} :
    resolveCompatibleKeyFallback requested keys = none ↔
      ∀ key ∈ keys, withinSpelling requested key = false := by
  rw [resolveCompatibleKeyFallback, FirstGreatest.pick_eq_none, List.filter_eq_nil_iff]
  simp only [Bool.not_eq_true]

section

variable (digits : DecimalDigits) (requested : RouteKey)

/-- The two resolvers come to keys of one parsed version, or both to none. -/
def Agree (keys : List RouteKey) : Prop :=
  ∃ resolved, resolveCompatibleKey digits requested keys = .ok resolved ∧
    resolved.map (fun key => SchemaVersion.parse digits key.schemaVersion) =
      (resolveCompatibleKeyFallback requested keys).map
        fun key => SchemaVersion.parse digits key.schemaVersion

/-- A key of the greatest eligible version is spelled within the request, and whatever is spelled
later within it is of that version too; or there is neither an eligible key nor one spelled
within. -/
inductive SpellingFollows (version : SchemaVersion) (keys : List RouteKey) : Prop
  | greatest {key : RouteKey} {candidate : SchemaVersion} (listed : key ∈ keys)
      (within : withinSpelling requested key = true)
      (eligible : Eligible digits requested version key candidate)
      (highest : ∀ other ∈ keys, ∀ rival, Eligible digits requested version other rival →
        rival.le candidate = true)
      (later : ∀ other ∈ keys, withinSpelling requested other = true →
        key.schemaVersion < other.schemaVersion →
        SchemaVersion.parse digits other.schemaVersion = .ok candidate) :
      SpellingFollows version keys
  | none
      (ineligible : ∀ key ∈ keys, ∀ candidate, ¬ Eligible digits requested version key candidate)
      (outside : ∀ key ∈ keys, withinSpelling requested key = false) :
      SpellingFollows version keys

end

section

variable {digits : DecimalDigits} {requested : RouteKey} {version : SchemaVersion}
  {keys : List RouteKey}

theorem eligible_le_of_among {key : RouteKey} {candidate : SchemaVersion}
    (among : FirstGreatest.Among (fun left right => left.1.le right.1)
      (candidate? digits requested version) keys key (candidate, key))
    {other : RouteKey} (listed : other ∈ keys) {rival : SchemaVersion}
    (eligible : Eligible digits requested version other rival) : rival.le candidate = true := by
  have ranked : candidate? digits requested version other = some (rival, other) :=
    candidate?_eq_some.mpr ⟨eligible, rfl⟩
  exact among.greatest le_total_item listed ranked

theorem agree_iff_of_none (resolved : resolveCompatibleKey digits requested keys = .ok none)
    (ineligible : ∀ key ∈ keys, ∀ candidate, ¬ Eligible digits requested version key candidate) :
    Agree digits requested keys ↔ SpellingFollows digits requested version keys := by
  constructor
  · rintro ⟨_, returned, same⟩
    obtain rfl := Except.ok.inj (resolved.symm.trans returned)
    refine SpellingFollows.none ineligible (fallback_none.mp ?_)
    exact Option.map_eq_none_iff.mp same.symm
  · rintro (⟨listed, within, eligible, highest, later⟩ | ⟨_, outside⟩)
    · exact absurd eligible (ineligible _ listed _)
    · refine ⟨none, resolved, ?_⟩
      rw [fallback_none.mpr outside, Option.map_none]

section

variable {key : RouteKey} {candidate : SchemaVersion}
  (resolved : resolveCompatibleKey digits requested keys = .ok (some key))
  (among : FirstGreatest.Among (fun left right => left.1.le right.1)
    (candidate? digits requested version) keys key (candidate, key))

include resolved among

theorem follows_of_agree (agree : Agree digits requested keys) :
    SpellingFollows digits requested version keys := by
  have eligible := (candidate?_eq_some.mp among.ranked).1
  obtain ⟨_, returned, same⟩ := agree
  obtain rfl := Except.ok.inj (resolved.symm.trans returned)
  rcases fallen : resolveCompatibleKeyFallback requested keys with _ | found
  · rw [fallen] at same
    cases same
  · rw [fallen] at same
    have foundParsed := (Option.some.inj same).symm.trans eligible.parsed
    obtain ⟨listed, within, latest⟩ := fallback_some fallen
    have sameType : found.eventType = requested.eventType := by
      simp only [withinSpelling, Bool.and_eq_true, decide_eq_true_eq] at within
      exact within.1.1
    refine SpellingFollows.greatest listed within
      ⟨sameType, foundParsed, eligible.sameMajor, eligible.notLater⟩
      (fun other otherListed rival fits => eligible_le_of_among among otherListed fits) ?_
    intro other otherListed otherWithin later
    exact absurd (latest other otherListed otherWithin) (not_le.mpr later)

theorem agree_of_follows (follows : SpellingFollows digits requested version keys) :
    Agree digits requested keys := by
  have eligible := (candidate?_eq_some.mp among.ranked).1
  cases follows with
  | @greatest near rival listed within fits highest later =>
      have sameVersion : rival = candidate := SchemaVersion.le_antisymm
        (eligible_le_of_among among listed fits) (highest _ among.mem _ eligible)
      refine ⟨some key, resolved, ?_⟩
      rcases fallen : resolveCompatibleKeyFallback requested keys with _ | found
      · rw [fallback_none.mp fallen near listed] at within
        cases within
      · obtain ⟨foundListed, foundWithin, latest⟩ := fallback_some fallen
        have foundParsed : SchemaVersion.parse digits found.schemaVersion = .ok rival := by
          rcases (latest near listed within).lt_or_eq with after | same
          · exact later found foundListed foundWithin after
          · rw [← same]
            exact fits.parsed
        simp only [Option.map_some, eligible.parsed, foundParsed, sameVersion]
  | none ineligible _ => exact absurd eligible (ineligible _ among.mem _)

end

/-- The resolvers agree exactly where the spelling follows the version. -/
theorem agree_iff (parsed : SchemaVersion.parse digits requested.schemaVersion = .ok version) :
    Agree digits requested keys ↔ SpellingFollows digits requested version keys := by
  rcases resolveCompatibleKey_of_parse keys parsed with
    ⟨resolved, ineligible⟩ | ⟨key, candidate, resolved, among⟩
  · exact agree_iff_of_none resolved ineligible
  · exact ⟨follows_of_agree resolved among, agree_of_follows resolved among⟩

end

/-- One character between the points of a version. -/
def SingleDigits (version : String) : Prop :=
  ∀ component ∈ version.toList.tail.splitOn '.', component.length = 1

instance (version : String) : Decidable (SingleDigits version) :=
  inferInstanceAs (Decidable (∀ component ∈ version.toList.tail.splitOn '.', component.length = 1))

def Ascii (version : String) : Prop := ∀ c ∈ version.toList, c.toNat < 128

def number (c : Char) : Nat := c.toNat - 48

/-- A version spelled in one to three ASCII digits. -/
inductive Spelled : Str → SchemaVersion → Prop
  | major {a : Char} (first : a.isDigit = true) : Spelled ['v', a] ⟨number a, 0, 0⟩
  | minor {a b : Char} (first : a.isDigit = true) (second : b.isDigit = true) :
      Spelled ['v', a, '.', b] ⟨number a, number b, 0⟩
  | patch {a b c : Char} (first : a.isDigit = true) (second : b.isDigit = true)
      (third : c.isDigit = true) : Spelled ['v', a, '.', b, '.', c] ⟨number a, number b, number c⟩

theorem convertComponent_digit {digits : DecimalDigits} {c : Char} {value : Nat}
    (ascii : c.toNat < 128)
    (converted : SchemaVersion.convertComponent digits [c] = .ok value) :
    c.isDigit = true ∧ value = number c := by
  rw [SchemaVersion.convertComponent, List.mapM_cons, digits.value_ascii c ascii] at converted
  by_cases digit : c.isDigit = true
  · refine ⟨digit, ?_⟩
    simp [digit, SchemaVersion.maxStrDigits] at converted
    exact converted.symm
  · simp [digit] at converted

theorem mapM_convertComponent {digits : DecimalDigits} {chars : List Char} {numbers : List Nat}
    (ascii : ∀ c ∈ chars, c.toNat < 128)
    (converted : (chars.map fun c => [c]).mapM (SchemaVersion.convertComponent digits) =
      .ok numbers) : (∀ c ∈ chars, c.isDigit = true) ∧ numbers = chars.map number := by
  induction chars generalizing numbers with
  | nil =>
      cases converted
      exact ⟨fun _ none => absurd none List.not_mem_nil, rfl⟩
  | cons c rest ih =>
      rw [List.map_cons, List.mapM_cons] at converted
      obtain ⟨value, here, after⟩ := Except.bind_eq_ok.mp converted
      obtain ⟨values, later, joined⟩ := Except.bind_eq_ok.mp after
      cases joined
      rw [List.forall_mem_cons] at ascii
      obtain ⟨digit, rfl⟩ := convertComponent_digit ascii.1 here
      obtain ⟨others, rfl⟩ := ih ascii.2 later
      exact ⟨List.forall_mem_cons.mpr ⟨digit, others⟩, rfl⟩

theorem exists_singletons {parts : List Str} (single : ∀ part ∈ parts, part.length = 1) :
    ∃ chars : List Char, parts = chars.map fun c => [c] := by
  induction parts with
  | nil => exact ⟨[], rfl⟩
  | cons part rest ih =>
      rw [List.forall_mem_cons] at single
      obtain ⟨c, rfl⟩ := List.length_eq_one_iff.mp single.1
      obtain ⟨chars, rfl⟩ := ih single.2
      exact ⟨c :: chars, rfl⟩

theorem spelled_of_parse {digits : DecimalDigits} {version : String} {parsed : SchemaVersion}
    (returned : SchemaVersion.parse digits version = .ok parsed) (single : SingleDigits version)
    (ascii : Ascii version) : Spelled version.toList parsed := by
  obtain ⟨rest, numbers, spelled, _, few, _, converted, rfl⟩ :=
    SchemaVersion.parse_eq_ok.mp returned
  have joined : ['.'].intercalate (rest.splitOn '.') = rest := List.intercalate_splitOn '.'
  rw [Ascii, spelled] at ascii
  rw [SingleDigits, spelled, List.tail_cons] at single
  obtain ⟨chars, parts⟩ := exists_singletons single
  rw [parts] at few converted joined
  have within : ∀ c ∈ chars, c.toNat < 128 := by
    intro c member
    refine ascii c (List.mem_cons_of_mem _ ?_)
    rw [← joined]
    have listed : [c] ∈ chars.map fun c => [c] := List.mem_map_of_mem member
    exact Text.mem_intercalate (List.mem_singleton_self c) listed ['.']
  obtain ⟨decimal, rfl⟩ := mapM_convertComponent within converted
  rw [spelled, ← joined]
  rcases chars with _ | ⟨a, _ | ⟨b, _ | ⟨c, _ | ⟨d, more⟩⟩⟩⟩
  · exact absurd parts (List.splitOn_ne_nil _ _)
  · exact Spelled.major (decimal a (by simp))
  · exact Spelled.minor (decimal a (by simp)) (decimal b (by simp))
  · exact Spelled.patch (decimal a (by simp)) (decimal b (by simp)) (decimal c (by simp))
  · simp only [List.map_cons, List.length_cons] at few
    omega

theorem isDigit_iff {c : Char} : c.isDigit = true ↔ 48 ≤ c.toNat ∧ c.toNat ≤ 57 :=
  Char.isDigit_iff_toNat

theorem number_inj {a b : Char} (first : a.isDigit = true) (second : b.isDigit = true) :
    a = b ↔ number a = number b := by
  have lower := isDigit_iff.mp first
  have upper := isDigit_iff.mp second
  rw [← Char.toNat_inj, number, number]
  omega

theorem lt_iff_toNat_lt (a b : Char) : a < b ↔ a.toNat < b.toNat := by
  rw [Char.lt_def, UInt32.lt_iff_toNat_lt]
  rfl

theorem point_ne {a : Char} (digit : a.isDigit = true) : '.' ∉ ['v', a] := by
  have bounds := isDigit_iff.mp digit
  simp only [List.mem_cons, List.not_mem_nil, or_false, not_or]
  refine ⟨by decide, ?_⟩
  rintro rfl
  exact absurd bounds.1 (by decide)

theorem Spelled.majorPrefix_eq {text : String} {version : SchemaVersion}
    (spelled : Spelled text.toList version) :
    ∃ a : Char, a.isDigit = true ∧ majorPrefix text = ['v', a] ∧ version.major = number a := by
  rw [majorPrefix]
  generalize text.toList = spelling at spelled
  cases spelled with
  | major first =>
      refine ⟨_, first, ?_, rfl⟩
      rw [Text.splitOnce_of_not_mem (point_ne first)]
      rfl
  | @minor a b first second =>
      refine ⟨a, first, ?_, rfl⟩
      have split : Text.splitOnce ['.'] ['v', a, '.', b] = some (['v', a], [b]) :=
        Text.splitOnce_append (point_ne first) [b]
      rw [split]
      rfl
  | @patch a b c first second third =>
      refine ⟨a, first, ?_, rfl⟩
      have split : Text.splitOnce ['.'] ['v', a, '.', b, '.', c] = some (['v', a], [b, '.', c]) :=
        Text.splitOnce_append (point_ne first) [b, '.', c]
      rw [split]
      rfl

/-- Among spellings of one major version the later is of a version at least as great. -/
theorem Spelled.le_of_le {left right : Str} {version other : SchemaVersion}
    (spelled : Spelled left version) (otherSpelled : Spelled right other)
    (sameMajor : version.major = other.major) (noLater : left ≤ right) :
    version.le other = true := by
  rw [← not_lt] at noLater
  rw [SchemaVersion.le_iff]
  cases spelled <;> cases otherSpelled <;>
    simp only [List.cons_lt_cons_iff, List.nil_lt_cons, List.not_lt_nil, lt_iff_toNat_lt,
      ← Char.toNat_inj, number, isDigit_iff, true_and, and_true, and_false, or_false] at * <;>
    omega

/-- Of the spellings of one version the later is the longer. -/
theorem Spelled.le_iff_length {left right : Str} {version other : SchemaVersion}
    (spelled : Spelled left version) (otherSpelled : Spelled right other)
    (same : version = other) : left ≤ right ↔ left.length ≤ right.length := by
  rw [← not_lt]
  cases spelled <;> cases otherSpelled <;>
    simp only [SchemaVersion.mk.injEq, List.cons_lt_cons_iff, List.nil_lt_cons, List.not_lt_nil,
      lt_iff_toNat_lt, ← Char.toNat_inj, number, isDigit_iff, true_and, and_true, and_false,
      or_false, List.length_cons, List.length_nil] at * <;>
    omega

section

variable {digits : DecimalDigits} {requested key : RouteKey} {version candidate : SchemaVersion}
  {keys : List RouteKey}

theorem withinSpelling_iff (spelled : Spelled key.schemaVersion.toList candidate)
    (requestedSpelled : Spelled requested.schemaVersion.toList version) :
    withinSpelling requested key = true ↔ key.eventType = requested.eventType ∧
      candidate.major = version.major ∧
      key.schemaVersion.toList ≤ requested.schemaVersion.toList := by
  obtain ⟨a, digit, shortened, major⟩ := spelled.majorPrefix_eq
  obtain ⟨b, otherDigit, otherShortened, otherMajor⟩ := requestedSpelled.majorPrefix_eq
  have sameMajor : majorPrefix key.schemaVersion = majorPrefix requested.schemaVersion ↔
      candidate.major = version.major := by
    rw [shortened, otherShortened, major, otherMajor, ← number_inj digit otherDigit]
    simp only [List.cons.injEq, true_and, and_true]
  simp only [withinSpelling, Bool.and_eq_true, decide_eq_true_eq, sameMajor,
    String.le_iff_toList_le, and_assoc]

/-- A key spelled within the request is of a version it may resolve to. -/
theorem eligible_of_within (parsed : SchemaVersion.parse digits key.schemaVersion = .ok candidate)
    (spelled : Spelled key.schemaVersion.toList candidate)
    (requestedSpelled : Spelled requested.schemaVersion.toList version)
    (within : withinSpelling requested key = true) :
    Eligible digits requested version key candidate := by
  obtain ⟨sameType, sameMajor, noLater⟩ := (withinSpelling_iff spelled requestedSpelled).mp within
  exact ⟨sameType, parsed, sameMajor, spelled.le_of_le requestedSpelled sameMajor noLater⟩

/-- An eligible key of another version than the requested is spelled within the request. -/
theorem within_of_eligible (eligible : Eligible digits requested version key candidate)
    (spelled : Spelled key.schemaVersion.toList candidate)
    (requestedSpelled : Spelled requested.schemaVersion.toList version)
    (other : candidate ≠ version) : withinSpelling requested key = true := by
  refine (withinSpelling_iff spelled requestedSpelled).mpr
    ⟨eligible.sameType, eligible.sameMajor, ?_⟩
  by_contra later
  have above := requestedSpelled.le_of_le spelled eligible.sameMajor.symm (not_le.mp later).le
  exact other (SchemaVersion.le_antisymm eligible.notLater above)

/-- No key of the requested type has the requested version, or one of them is spelled no longer than
the request. -/
def SpelledNoLonger (digits : DecimalDigits) (requested : RouteKey) (version : SchemaVersion)
    (keys : List RouteKey) : Prop :=
  (∀ key ∈ keys, key.eventType = requested.eventType →
      SchemaVersion.parse digits key.schemaVersion ≠ .ok version) ∨
    ∃ key ∈ keys, key.eventType = requested.eventType ∧
      SchemaVersion.parse digits key.schemaVersion = .ok version ∧
      key.schemaVersion.toList.length ≤ requested.schemaVersion.toList.length

/-- The registered keys parse, and are spelled in single ASCII digits. -/
def AllSpelled (digits : DecimalDigits) (keys : List RouteKey) : Prop :=
  ∀ key ∈ keys, ∃ candidate, SchemaVersion.parse digits key.schemaVersion = .ok candidate ∧
    Spelled key.schemaVersion.toList candidate

theorem spelledNoLonger_of_follows (spelled : AllSpelled digits keys)
    (requestedSpelled : Spelled requested.schemaVersion.toList version)
    (follows : SpellingFollows digits requested version keys) :
    SpelledNoLonger digits requested version keys := by
  rw [SpelledNoLonger, or_iff_not_imp_left]
  intro some
  push Not at some
  obtain ⟨same, sameListed, sameType, sameParsed⟩ := some
  have eligible : Eligible digits requested version same version :=
    ⟨sameType, sameParsed, rfl, SchemaVersion.le_refl _⟩
  cases follows with
  | @greatest near rival listed within fits highest later =>
      have sameVersion := SchemaVersion.le_antisymm fits.notLater
        (highest same sameListed version eligible)
      obtain ⟨found, parsed, spelling⟩ := spelled near listed
      have foundVersion : found = version :=
        (Except.ok.inj (parsed.symm.trans fits.parsed)).trans sameVersion
      have noLater := ((withinSpelling_iff spelling requestedSpelled).mp within).2.2
      exact ⟨near, listed, fits.sameType, foundVersion ▸ parsed,
        (spelling.le_iff_length requestedSpelled foundVersion).mp noLater⟩
  | none ineligible _ => exact absurd eligible (ineligible same sameListed version)

/-- Where no key has the requested version, every eligible key is spelled within the request. -/
theorem follows_of_unregistered (spelled : AllSpelled digits keys)
    (requestedSpelled : Spelled requested.schemaVersion.toList version)
    (unregistered : ∀ key ∈ keys, key.eventType = requested.eventType →
      SchemaVersion.parse digits key.schemaVersion ≠ .ok version) :
    SpellingFollows digits requested version keys := by
  have within : ∀ key ∈ keys, ∀ candidate, Eligible digits requested version key candidate →
      withinSpelling requested key = true ∧ Spelled key.schemaVersion.toList candidate := by
    intro key listed candidate eligible
    obtain ⟨found, parsed, spelling⟩ := spelled key listed
    obtain rfl := Except.ok.inj (parsed.symm.trans eligible.parsed)
    refine ⟨within_of_eligible eligible spelling requestedSpelled ?_, spelling⟩
    rintro rfl
    exact unregistered key listed eligible.sameType parsed
  rcases fallen : resolveCompatibleKeyFallback requested keys with _ | near
  · have outside := fallback_none.mp fallen
    refine SpellingFollows.none (fun key listed candidate eligible => ?_) outside
    exact Bool.false_ne_true
      ((outside key listed).symm.trans (within key listed candidate eligible).1)
  · obtain ⟨listed, nearWithin, latest⟩ := fallback_some fallen
    obtain ⟨candidate, parsed, spelling⟩ := spelled near listed
    have eligible := eligible_of_within parsed spelling requestedSpelled nearWithin
    refine SpellingFollows.greatest listed nearWithin eligible ?_ ?_
    · intro other otherListed rival fits
      obtain ⟨otherWithin, otherSpelling⟩ := within other otherListed rival fits
      exact otherSpelling.le_of_le spelling (fits.sameMajor.trans eligible.sameMajor.symm)
        (String.le_iff_toList_le.mp (latest other otherListed otherWithin))
    · intro other otherListed otherWithin later
      exact absurd (latest other otherListed otherWithin) (not_le.mpr later)

/-- A key of the requested version spelled no longer than the request is spelled within it. -/
theorem follows_of_registered (spelled : AllSpelled digits keys)
    (requestedSpelled : Spelled requested.schemaVersion.toList version) (listed : key ∈ keys)
    (sameType : key.eventType = requested.eventType)
    (parsed : SchemaVersion.parse digits key.schemaVersion = .ok version)
    (shorter : key.schemaVersion.toList.length ≤ requested.schemaVersion.toList.length) :
    SpellingFollows digits requested version keys := by
  obtain ⟨found, foundParsed, spelling⟩ := spelled key listed
  obtain rfl := Except.ok.inj (foundParsed.symm.trans parsed)
  have within : withinSpelling requested key = true :=
    (withinSpelling_iff spelling requestedSpelled).mpr
      ⟨sameType, rfl, (spelling.le_iff_length requestedSpelled rfl).mpr shorter⟩
  refine SpellingFollows.greatest listed within
    ⟨sameType, parsed, rfl, SchemaVersion.le_refl _⟩ (fun _ _ _ fits => fits.notLater) ?_
  intro other otherListed otherWithin later
  obtain ⟨rival, rivalParsed, rivalSpelling⟩ := spelled other otherListed
  have fits := eligible_of_within rivalParsed rivalSpelling requestedSpelled otherWithin
  have above := spelling.le_of_le rivalSpelling fits.sameMajor.symm
    (String.le_iff_toList_le.mp later.le)
  rw [rivalParsed, SchemaVersion.le_antisymm fits.notLater above]

theorem follows_of_spelledNoLonger (spelled : AllSpelled digits keys)
    (requestedSpelled : Spelled requested.schemaVersion.toList version)
    (noLonger : SpelledNoLonger digits requested version keys) :
    SpellingFollows digits requested version keys := by
  rcases noLonger with unregistered | ⟨key, listed, sameType, parsed, shorter⟩
  · exact follows_of_unregistered spelled requestedSpelled unregistered
  · exact follows_of_registered spelled requestedSpelled listed sameType parsed shorter

end

/-- The resolvers agree exactly where the spelling follows the version; in ASCII digits, exactly
where the requested version is not registered or is registered under no longer a spelling. -/
theorem fallback_agrees_iff (digits : DecimalDigits) (requested : RouteKey) (keys : List RouteKey)
    (version : SchemaVersion)
    (parsed : SchemaVersion.parse digits requested.schemaVersion = .ok version)
    (accepted : ∀ key ∈ keys, ∃ candidate,
      SchemaVersion.parse digits key.schemaVersion = .ok candidate)
    (single : SingleDigits requested.schemaVersion)
    (allSingle : ∀ key ∈ keys, SingleDigits key.schemaVersion) :
    (Agree digits requested keys ↔ SpellingFollows digits requested version keys) ∧
      (Ascii requested.schemaVersion → (∀ key ∈ keys, Ascii key.schemaVersion) →
        (Agree digits requested keys ↔ SpelledNoLonger digits requested version keys)) := by
  refine ⟨agree_iff parsed, fun ascii allAscii => (agree_iff parsed).trans ?_⟩
  have requestedSpelled := spelled_of_parse parsed single ascii
  have spelled : AllSpelled digits keys := by
    intro key listed
    obtain ⟨candidate, returned⟩ := accepted key listed
    exact ⟨candidate, returned, spelled_of_parse returned (allSingle key listed)
      (allAscii key listed)⟩
  exact ⟨spelledNoLonger_of_follows spelled requestedSpelled,
    follows_of_spelledNoLonger spelled requestedSpelled⟩

section Sample

open RealtimePipeline (sampleDigits)

/-- v1 is the closest to v1.1, and both resolvers find it. -/
theorem fallback_agrees_iff_sample :
    (Agree sampleDigits ⟨"store.transaction", "v1.1"⟩ [⟨"store.transaction", "v1"⟩] ↔
        SpellingFollows sampleDigits ⟨"store.transaction", "v1.1"⟩ ⟨1, 1, 0⟩
          [⟨"store.transaction", "v1"⟩]) ∧
      (Ascii "v1.1" → (∀ key ∈ [(⟨"store.transaction", "v1"⟩ : RouteKey)], Ascii key.schemaVersion) →
        (Agree sampleDigits ⟨"store.transaction", "v1.1"⟩ [⟨"store.transaction", "v1"⟩] ↔
          SpelledNoLonger sampleDigits ⟨"store.transaction", "v1.1"⟩ ⟨1, 1, 0⟩
            [⟨"store.transaction", "v1"⟩])) :=
  fallback_agrees_iff sampleDigits ⟨"store.transaction", "v1.1"⟩ [⟨"store.transaction", "v1"⟩]
    ⟨1, 1, 0⟩ rfl (List.forall_mem_singleton.mpr ⟨⟨1, 0, 0⟩, rfl⟩) (by decide +kernel)
    (List.forall_mem_singleton.mpr (by decide +kernel))

/-- v1.0 is v1, and is not spelled within it: the numeric resolver finds it, the fallback nothing. -/
theorem longer_spelling_missed :
    SingleDigits "v1" ∧ SingleDigits "v1.0" ∧
      ¬ Agree sampleDigits ⟨"store.transaction", "v1"⟩ [⟨"store.transaction", "v1.0"⟩] := by
  refine ⟨by decide +kernel, by decide +kernel, ?_⟩
  rintro ⟨resolved, returned, same⟩
  have found : resolveCompatibleKey sampleDigits ⟨"store.transaction", "v1"⟩
      [⟨"store.transaction", "v1.0"⟩] = .ok (some ⟨"store.transaction", "v1.0"⟩) := by rfl
  have missed : resolveCompatibleKeyFallback ⟨"store.transaction", "v1"⟩
      [⟨"store.transaction", "v1.0"⟩] = none := by decide +kernel
  obtain rfl := Except.ok.inj (found.symm.trans returned)
  rw [missed] at same
  cases same

end Sample

end SignalForge.EventRouter
