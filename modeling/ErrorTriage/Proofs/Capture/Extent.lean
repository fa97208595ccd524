import ErrorTriage.Proofs.Capture.Collections
import ErrorTriage.Proofs.Path.Written

/-!
# Capture.Extent — the lengths that values report bound their positions

Lists, texts and collections of names and values have items at positions, and a member that counts
the items.  Each of the three has look-ups of its own; all of them take a position for an item
exactly from zero up to what the member says.  A negative position is refused like one that is too
large, and texts count and give letters, however many bytes a letter takes.

Values of other kinds are left out: a record has no positions, whatever its members are called.
-/

namespace ErrorTriage

/-- The letters of a text, each of them as a text. -/
def lettersOf (s : String) : List String := s.toList.map Char.toString

namespace Value

/-- A value with items at positions, the member that counts them, and the items in order. -/
inductive HasItems : Value → String → List Value → Prop where
  | listCount (items : List Value) : HasItems (.list items) "Count" items
  | listLength (items : List Value) : HasItems (.list items) "Length" items
  | text (s : String) : HasItems (.str s) "Length" ((lettersOf s).map .str)
  | collection (m : NameValues) :
      HasItems m.toValue "Count" (m.entries.map fun pair => .str pair.2)

variable {v : Value} {counter : String} {items : List Value}

/-! ## Looking up -/

/-- The counter of a value gives the number of its items. -/
theorem HasItems.lookup?_counter (h : HasItems v counter items) :
    v.lookup? (.member counter) = some (.int items.length) := by
  cases h with
  | listCount => rfl
  | listLength => rfl
  | text s =>
      rw [List.length_map, lettersOf, List.length_map, String.length_toList]
      rfl
  | collection m => simp [lookup?, member?, NameValues.toValue, NameValues.member?, NameValues.size]

/-- Positions of a value give its items. -/
theorem HasItems.lookup?_position (h : HasItems v counter items) (i : Int) :
    v.lookup? (.index (.int i)) = itemAt items i := by
  cases h with
  | listCount => rfl
  | listLength => rfl
  | text s =>
      rw [lookup?_text_position, lettersOf, List.map_map, itemAt_map]
      rfl
  | collection m => rw [NameValues.lookup?_position, itemAt_map]

/-- A position with an item is found in either mode. -/
theorem HasItems.walk_position {position : Nat} {item : Value} (h : HasItems v counter items)
    (hitem : items[position]? = some item) (strict : Bool) :
    v.walk strict [.index (.int position)] = .ok item := by
  have hfound : v.lookup? (.index (.int position)) = some item := by
    rw [h.lookup?_position, itemAt_eq_some_iff]
    exact ⟨position, rfl, hitem⟩
  exact walk_cons_of_lookup?_eq_some hfound strict []

theorem HasItems.isNull_eq_false (h : HasItems v counter items) : v.isNull = false := by
  cases h <;> rfl

theorem HasItems.isName_counter (h : HasItems v counter items) : Path.IsName counter.toList := by
  cases h <;> decide +kernel

/-! ## The extent of a value -/

/-- A value reports how many items it has, and has one at each position below that and at no other.
Asked for all positions in order it gives all of the items. -/
structure ReportsExtent (v : Value) (counter : String) (items : List Value) : Prop where
  count : ∀ strict, v.atPath counter strict = .ok (.int items.length)
  succeeds_iff : ∀ i : Int, (∃ found, v.walk true [.index (.int i)] = .ok found) ↔
    0 ≤ i ∧ i < items.length
  inside : ∀ (position : Nat) item, items[position]? = some item →
    ∀ strict, v.walk strict [.index (.int position)] = .ok item
  outside : ∀ i : Int, ¬(0 ≤ i ∧ i < items.length) →
    v.walk false [.index (.int i)] = .ok .null ∧
      v.walk true [.index (.int i)] = .error (.missingIndexer v.typeName (.int i))
  in_order : ∀ strict, (List.range items.length).mapM (fun position : Nat =>
    v.walk strict [.index (.int position)]) = .ok items
  written : ∀ i : Int, Integer.min64 ≤ i → i ≤ Integer.max64 → ∀ strict,
    v.atPath (Step.index (.int i)).text strict =
      (v.walk strict [.index (.int i)]).mapError PathError.lookup

/-- A value with items reports how many there are, and has these and no others. -/
theorem HasItems.reportsExtent (h : HasItems v counter items) : ReportsExtent v counter items where
  count := by
    intro strict
    rw [atPath_of_readSteps_eq_ok (Path.readSteps_name h.isName_counter),
      walk_cons_of_lookup?_eq_some h.lookup?_counter, walk_nil, mapError_ok]
  succeeds_iff := by
    intro i
    have hposition := h.lookup?_position i
    -- The look-up alone decides: one step from a value that is not null is no more than that.
    by_cases hin : 0 ≤ i ∧ i < items.length
    · have hsome : itemAt items i ≠ none := fun hnone => itemAt_eq_none_iff.1 hnone hin
      rcases Option.ne_none_iff_exists'.1 hsome with ⟨item, hitem⟩
      simp [walk_cons_of_lookup?_eq_some (hposition.trans hitem), hin]
    · have hnone := itemAt_eq_none_iff.2 hin
      simp [walk_strict_cons_of_lookup?_eq_none (hposition.trans hnone), hin]
  inside := fun _ _ hitem strict => h.walk_position hitem strict
  outside := by
    intro i hout
    have hnone := (h.lookup?_position i).trans (itemAt_eq_none_iff.2 hout)
    constructor
    · exact walk_lenient_cons_of_lookup?_eq_none hnone []
    · rw [walk_strict_cons_of_lookup?_eq_none hnone, blame_of_not_null h.isNull_eq_false]
      rfl
  in_order := by
    intro strict
    rw [List.range_eq_range']
    refine mapM_range'_eq_ok ?_
    intro position item hitem
    rw [Nat.zero_add]
    exact h.walk_position hitem strict
  written := by
    intro i hlow hhigh strict
    have hstep : Path.IsStep (.index (.int i)) := ⟨hlow, hhigh⟩
    exact atPath_of_readSteps_eq_ok (Path.readSteps_text hstep not_false) v strict

/-! ## Letters -/

/-- The letters of a text joined give the text. -/
theorem join_lettersOf (s : String) : String.join (lettersOf s) = s := by
  rw [← String.toList_inj, String.toList_join, lettersOf, List.flatMap_map]
  simp

theorem length_of_mem_lettersOf {s letter : String} (h : letter ∈ lettersOf s) :
    letter.length = 1 := by
  rcases List.mem_map.1 h with ⟨c, _, rfl⟩
  simp

/-- Lists, texts and collections have items exactly at the positions from zero up to the length that
they report: strictly nothing else is found, and leniently it is null.  The items of a text are its
letters, which put together in order are the text. -/
theorem reported_lengths_bound_positions :
    (∀ items, ReportsExtent (.list items) "Count" items ∧
      ReportsExtent (.list items) "Length" items) ∧
    (∀ s, ReportsExtent (.str s) "Length" ((lettersOf s).map .str) ∧
      (∀ letter ∈ lettersOf s, letter.length = 1) ∧ String.join (lettersOf s) = s) ∧
    ∀ m : NameValues,
      ReportsExtent m.toValue "Count" (m.entries.map fun pair => .str pair.2) := by
  refine ⟨?_, ?_, ?_⟩
  · intro items
    exact ⟨(HasItems.listCount items).reportsExtent, (HasItems.listLength items).reportsExtent⟩
  · intro s
    exact ⟨(HasItems.text s).reportsExtent, fun _ => length_of_mem_lettersOf, join_lettersOf s⟩
  · intro m
    exact (HasItems.collection m).reportsExtent

/-- Three letters of one, two and three bytes; the least of all positions is none of theirs. -/
theorem reported_lengths_bound_positions_letters :
    (Value.str "hé€").atPath "Length" true = .ok (.int 3) ∧
      (Value.str "hé€").atPath "[2]" true = .ok (.str "€") ∧
      (Value.str "hé€").atPath "[3]" true =
        .error (.lookup (.missingIndexer "String" (.int 3))) ∧
      (Value.str "hé€").atPath "[-9223372036854775808]" false = .ok .null := by
  have hletters : lettersOf "hé€" = ["h", "é", "€"] := by decide +kernel
  have hextent := (reported_lengths_bound_positions.2.1 "hé€").1
  rw [hletters] at hextent
  have hlast : (Step.index (.int 2)).text = "[2]" := by decide +kernel
  have hbehind : (Step.index (.int 3)).text = "[3]" := by decide +kernel
  have hleast : (Step.index (.int (-9223372036854775808))).text = "[-9223372036854775808]" := by
    decide +kernel
  have hfound : (Value.str "hé€").walk true [.index (.int 2)] = .ok (.str "€") :=
    hextent.inside 2 (.str "€") rfl true
  refine ⟨hextent.count true, ?_, ?_, ?_⟩
  · rw [← hlast, hextent.written 2 (by decide) (by decide), hfound]
    rfl
  · rw [← hbehind, hextent.written 3 (by decide) (by decide), (hextent.outside 3 (by decide)).2]
    rfl
  · rw [← hleast, hextent.written _ (by decide) (by decide), (hextent.outside _ (by decide)).1]
    rfl

end Value
end ErrorTriage
