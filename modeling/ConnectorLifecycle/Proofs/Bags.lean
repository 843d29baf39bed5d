import ConnectorLifecycle.Proofs.Entries
import ConnectorLifecycle.Proofs.Run

/-!
# Bags of properties as finite maps

A bag is collected from pairs and then changed step by step. What stands under a key is what was
written there last, by a step or by the pairs, unless the bag was cleared since; how else the bag
came about does not show, neither in its entries nor in its text. A merge is a finite map again, in
which the second bag has the last word.
-/

namespace ConnectorLifecycle

namespace PropertyBag

/-- A step of changing a bag. -/
inductive Edit where
  /-- Write a value under a key. -/
  | set (key value : String)
  /-- Forget everything. -/
  | clear
  /-- Write all entries of another bag. -/
  | mergeFrom (other : PropertyBag)

/-- Make a step. -/
def edit (bag : PropertyBag) : Edit → PropertyBag
  | .set key value => bag.insert key value
  | .clear => Table.empty
  | .mergeFrom other => bag.merge other

/-- The bag that is collected from pairs and then changed by steps. -/
def ofEdits (pairs : List (String × String)) (edits : List Edit) : PropertyBag :=
  edits.foldl edit (Table.ofList pairs)

namespace Edit

/-- A step writes a value under a key. -/
def Writes (key value : String) : Edit → Prop
  | set k v => k = key ∧ v = value
  | clear => False
  | mergeFrom other => (key, value) ∈ other.entries

/-- A step leaves what stands under a key. -/
def Spares (key : String) : Edit → Prop
  | set k _ => k ≠ key
  | clear => False
  | mergeFrom other => key ∉ other.keys

end Edit

/-- A value was written under a key, by a step or among the pairs, and every step since spares the
key. -/
def LastWritten (pairs : List (String × String)) (edits : List Edit) (key value : String) : Prop :=
  (∃ before e after, edits = before ++ e :: after ∧ e.Writes key value ∧
    ∀ later ∈ after, later.Spares key) ∨
  LastUnder key value pairs ∧ ∀ e ∈ edits, e.Spares key

/-- After a step a key has the value that the step writes, or the one it had if the step spares
it. -/
theorem get?_edit (bag : PropertyBag) (e : Edit) (key value : String) :
    (bag.edit e).get? key = some value ↔
      e.Writes key value ∨ bag.get? key = some value ∧ e.Spares key := by
  cases e with
  | set k v =>
    change (bag.insert k v).get? key = some value ↔
      (k = key ∧ v = value) ∨ bag.get? key = some value ∧ k ≠ key
    rw [Table.get?_insert]
    by_cases h : key = k
    · simp [h]
    · simp [h, Ne.symm h]
  | clear => simp [edit, Edit.Writes, Edit.Spares]
  | mergeFrom other =>
    change (bag.merge other).get? key = some value ↔
      (key, value) ∈ other.entries ∨ bag.get? key = some value ∧ key ∉ other.keys
    rw [Table.get?_merge, Option.or_eq_some_iff, ← Table.get?_eq_some_iff_mem, Table.mem_keys_iff,
      Option.not_isSome_iff_eq_none, and_comm (a := other.get? key = none)]

/-- After steps a key has the value that was written last, or the one it had if every step spares
it. -/
theorem get?_foldl_edit (bag : PropertyBag) (edits : List Edit) (key value : String) :
    (edits.foldl edit bag).get? key = some value ↔
      (∃ before e after, edits = before ++ e :: after ∧ e.Writes key value ∧
        ∀ later ∈ after, later.Spares key) ∨
      bag.get? key = some value ∧ ∀ e ∈ edits, e.Spares key := by
  induction edits generalizing bag with
  | nil => simp
  | cons e rest ih =>
    rw [List.foldl_cons, ih, get?_edit]
    -- The last write is among the later steps, or it is the first step, or it was there before.
    constructor
    · rintro (⟨before, e', after, rfl, writes, spares⟩ | ⟨writes | ⟨stood, spared⟩, spares⟩)
      · exact .inl ⟨e :: before, e', after, rfl, writes, spares⟩
      · exact .inl ⟨[], e, rest, rfl, writes, spares⟩
      · exact .inr ⟨stood, List.forall_mem_cons.mpr ⟨spared, spares⟩⟩
    · rintro (⟨before, e', after, split, writes, spares⟩ | ⟨stood, spares⟩)
      · cases before with
        | nil =>
          obtain ⟨rfl, rfl⟩ := List.cons.inj split
          exact .inr ⟨.inl writes, spares⟩
        | cons first before =>
          obtain ⟨rfl, rfl⟩ := List.cons.inj split
          exact .inl ⟨before, e', after, rfl, writes, spares⟩
      · obtain ⟨spared, spares⟩ := List.forall_mem_cons.mp spares
        exact .inr ⟨.inr ⟨stood, spared⟩, spares⟩

/-- A bag has under a key what was written there last since it was last cleared. -/
theorem get?_ofEdits {pairs : List (String × String)} {edits : List Edit} {key value : String} :
    (ofEdits pairs edits).get? key = some value ↔ LastWritten pairs edits key value := by
  rw [ofEdits, get?_foldl_edit, Table.get?_ofList_eq_some_iff]
  rfl

/-- Bags in which the same was written last are the same bag. -/
theorem ofEdits_eq {pairs pairs' : List (String × String)} {edits edits' : List Edit}
    (alike : ∀ key value, LastWritten pairs edits key value ↔ LastWritten pairs' edits' key value) :
    ofEdits pairs edits = ofEdits pairs' edits' := by
  apply Table.ext_get
  intro key
  apply Option.ext
  intro value
  rw [get?_ofEdits, get?_ofEdits, alike]

/-- A merge says where to listen exactly if one of the two bags does. -/
theorem definesConnector_merge (a b : PropertyBag) :
    definesConnector (a.merge b) = (definesConnector a || definesConnector b) := by
  rw [Bool.eq_iff_iff]
  simp only [definesConnector, Bool.or_eq_true, Table.contains_merge]
  rw [or_or_or_comm]

/-- However a bag is collected and changed, it lists its entries in strictly ascending order of the
keys' bytes, each key once, and has under a key what was written there last since it was last
cleared. Bags are equal exactly if they have the same under every key; so two in which the same was
written last list the same entries and have the same text, in whatever order they were filled. A
merge answers as the second bag does and else as the first one; it does not depend on the order of
merging, a bag merged with itself or with the empty one stays, and it is as large as both together
less the keys that they share. It says where to listen exactly if one of the two does. A service
that is asked for its properties merges its two groups and leaves both as they were. -/
theorem bags_are_maps_with_right_merge :
    (∀ pairs edits, let bag := ofEdits pairs edits
      AscendingTexts (bag.entries.map Prod.fst) ∧ (bag.entries.map Prod.fst).Nodup ∧
      (∀ key value, bag.get? key = some value ↔ LastWritten pairs edits key value) ∧
      ∀ key value, (key, value) ∈ bag.entries ↔ bag.get? key = some value) ∧
    (∀ a b : PropertyBag, a = b ↔ ∀ key, a.get? key = b.get? key) ∧
    (∀ pairs edits pairs' edits',
      (∀ key value, LastWritten pairs edits key value ↔ LastWritten pairs' edits' key value) →
        ofEdits pairs edits = ofEdits pairs' edits' ∧
        (ofEdits pairs edits).entries = (ofEdits pairs' edits').entries ∧
        text (ofEdits pairs edits) = text (ofEdits pairs' edits')) ∧
    (∀ a b : PropertyBag,
      (∀ key, (a.merge b).get? key = if b.contains key then b.get? key else a.get? key) ∧
      (a.merge b).size + (a.keys.filter b.contains).length = a.size + b.size ∧
      definesConnector (a.merge b) = (definesConnector a || definesConnector b)) ∧
    (∀ a b c : PropertyBag, (a.merge b).merge c = a.merge (b.merge c)) ∧
    (∀ a : PropertyBag, a.merge a = a ∧ a.merge Table.empty = a ∧ Table.empty.merge a = a) ∧
    ∀ {F : Type} (s : Service F) (env : Surroundings F) (sit : Situation F),
      s.serve ⟨.properties, env⟩ sit =
        (.ok (.properties (sit.state.connectorBag.merge sit.state.transferBag)), sit, []) := by
  refine ⟨?_, ?_, ?_, ?_, Table.merge_assoc, ?_, fun s env sit => rfl⟩
  · intro pairs edits bag
    exact ⟨Table.ascending bag, Table.nodup_keys bag, fun key value => get?_ofEdits,
      fun key value => Table.get?_eq_some_iff_mem.symm⟩
  · exact fun a b => ⟨fun h key => h ▸ rfl, Table.ext_get⟩
  · intro pairs edits pairs' edits' alike
    have same := ofEdits_eq alike
    exact ⟨same, congrArg Table.entries same, congrArg text same⟩
  · intro a b
    refine ⟨fun key => ?_, a.size_merge b, definesConnector_merge a b⟩
    rw [Table.get?_merge, Table.contains]
    cases b.get? key <;> rfl
  · exact fun a => ⟨a.merge_self, a.merge_empty, a.empty_merge⟩

end PropertyBag

end ConnectorLifecycle
