/-!
# The order of texts by their bytes

Keys, connector kinds and file names are all listed in one order: two texts are compared by the
bytes of their UTF-8 forms, and a text comes before its extensions. The order is strict and total,
so a finite set of texts has exactly one ascending list.
-/

namespace ConnectorLifecycle

/-- The bytes of the UTF-8 form of a text. -/
def textBytes (s : String) : List UInt8 := s.toByteArray.data.toList

/-- A text is determined by its bytes. -/
theorem textBytes_inj {s t : String} : textBytes s = textBytes t ↔ s = t := by
  constructor
  · intro h
    exact String.toByteArray_inj.mp (ByteArray.ext (Array.ext' h))
  · exact fun h => h ▸ rfl

/-- One text stands strictly before another in the order of bytes. -/
def Precedes (s t : String) : Prop := textBytes s < textBytes t

instance : DecidableRel Precedes := fun s t =>
  inferInstanceAs (Decidable (textBytes s < textBytes t))

namespace Precedes

/-- No text stands before itself. -/
theorem irrefl (s : String) : ¬ Precedes s s := List.lt_irrefl _

/-- The order is transitive. -/
theorem trans {s t u : String} (h : Precedes s t) (h' : Precedes t u) : Precedes s u :=
  List.lt_trans h h'

/-- Two texts never stand before each other. -/
theorem asymm {s t : String} (h : Precedes s t) : ¬ Precedes t s := List.lt_asymm h

/-- Ordered texts differ. -/
theorem ne {s t : String} (h : Precedes s t) : s ≠ t := fun e => irrefl t (e ▸ h)

/-- Different texts are ordered one way or the other. -/
theorem of_not_of_ne {s t : String} (h : ¬ Precedes s t) (hne : s ≠ t) : Precedes t s := by
  rcases Classical.em (Precedes t s) with h' | h'
  · exact h'
  · exact absurd (textBytes_inj.mp (List.le_antisymm (List.not_lt.mp h') (List.not_lt.mp h))) hne

end Precedes

/-- Texts in strictly ascending order of their bytes. -/
def AscendingTexts (texts : List String) : Prop := texts.Pairwise Precedes

instance : DecidablePred AscendingTexts := fun texts =>
  inferInstanceAs (Decidable (texts.Pairwise Precedes))

/-- Place an item before the first item whose text comes later than its own. -/
def placeByText {α : Type} (text : α → String) (a : α) : List α → List α
  | [] => [a]
  | b :: rest => if Precedes (text a) (text b) then a :: b :: rest else b :: placeByText text a rest

/-- List items in ascending order of their texts; items with one text keep their order. -/
def orderByText {α : Type} (text : α → String) (items : List α) : List α :=
  items.foldl (fun placed a => placeByText text a placed) []

/-- Placing an item adds just that item. -/
theorem perm_placeByText {α : Type} (text : α → String) (a : α) (items : List α) :
    (placeByText text a items).Perm (a :: items) := by
  induction items with
  | nil => exact List.Perm.refl _
  | cons b rest ih =>
    rw [placeByText]
    split
    · exact List.Perm.refl _
    · exact (ih.cons b).trans (List.Perm.swap a b rest)

/-- Ordering items neither loses nor adds any. -/
theorem perm_orderByText {α : Type} (text : α → String) (items : List α) :
    (orderByText text items).Perm items := by
  have h : ∀ (items placed : List α),
      (items.foldl (fun placed a => placeByText text a placed) placed).Perm (placed ++ items) := by
    intro items
    induction items with
    | nil => intro placed; simp
    | cons a rest ih =>
      intro placed
      refine (ih _).trans ?_
      refine ((perm_placeByText text a placed).append_right rest).trans ?_
      exact List.perm_middle.symm
  simpa [orderByText] using h items []

/-- An item with a new text keeps ascending items ascending. -/
theorem ascending_placeByText {α : Type} {text : α → String} {a : α} {items : List α}
    (ascending : AscendingTexts (items.map text)) (fresh : text a ∉ items.map text) :
    AscendingTexts ((placeByText text a items).map text) := by
  induction items with
  | nil => exact List.pairwise_singleton _ _
  | cons b rest ih =>
    obtain ⟨first, others⟩ := List.pairwise_cons.mp ascending
    obtain ⟨hne, hrest⟩ := not_or.mp (fun h => fresh (List.mem_cons.mpr h))
    rw [placeByText]
    split
    · rename_i hlt
      refine List.pairwise_cons.mpr ⟨?_, ascending⟩
      intro t ht
      rcases List.mem_cons.mp ht with rfl | ht
      · exact hlt
      · exact hlt.trans (first t ht)
    · rename_i hlt
      refine List.pairwise_cons.mpr ⟨?_, ih others hrest⟩
      intro t ht
      have placed := ((perm_placeByText text a rest).map text).mem_iff.mp ht
      rcases List.mem_cons.mp placed with rfl | ht
      · exact Precedes.of_not_of_ne hlt hne
      · exact first t ht

/-- Items with different texts are listed in strictly ascending order. -/
theorem ascending_orderByText {α : Type} {text : α → String} {items : List α}
    (distinct : (items.map text).Nodup) :
    AscendingTexts ((orderByText text items).map text) := by
  -- Along the fold, what is placed is ascending and shares no text with what is to come.
  have h : ∀ (items placed : List α), AscendingTexts (placed.map text) →
      ((placed ++ items).map text).Nodup → AscendingTexts
        ((items.foldl (fun placed a => placeByText text a placed) placed).map text) := by
    intro items
    induction items with
    | nil => exact fun placed ascending _ => ascending
    | cons a rest ih =>
      intro placed ascending distinct
      have moved : (placed ++ a :: rest).Perm (placeByText text a placed ++ rest) := by
        refine List.perm_middle.trans ?_
        exact ((perm_placeByText text a placed).symm.append_right rest)
      refine ih _ (ascending_placeByText ascending ?_) ((moved.map text).nodup_iff.mp distinct)
      rw [List.map_append, List.map_cons] at distinct
      have hdisjoint := (List.nodup_append.mp distinct).2.2
      exact fun hmem => hdisjoint _ hmem _ List.mem_cons_self rfl
  exact h items [] List.Pairwise.nil (by simpa using distinct)

/-- Items have only one order in which their texts ascend. -/
theorem eq_of_ascending {α : Type} {text : α → String} {xs ys : List α} (perm : xs.Perm ys)
    (hx : AscendingTexts (xs.map text)) (hy : AscendingTexts (ys.map text)) : xs = ys := by
  refine List.Perm.eq_of_pairwise ?_ (List.pairwise_map.mp hx) (List.pairwise_map.mp hy) perm
  intro a b _ _ hab hba
  exact absurd hba hab.asymm

/-- Ascending items are split by a new text into those before it and those after it. -/
theorem exists_split_of_ascending {α : Type} {text : α → String} {items : List α} {s : String}
    (ascending : AscendingTexts (items.map text)) (fresh : s ∉ items.map text) :
    ∃ before after, items = before ++ after ∧ (∀ a ∈ before, Precedes (text a) s) ∧
      ∀ b ∈ after, Precedes s (text b) := by
  induction items with
  | nil => exact ⟨[], [], rfl, by simp, by simp⟩
  | cons b rest ih =>
    obtain ⟨first, others⟩ := List.pairwise_cons.mp ascending
    obtain ⟨hne, hrest⟩ := not_or.mp (fun h => fresh (List.mem_cons.mpr h))
    rcases Classical.em (Precedes s (text b)) with hlt | hlt
    · refine ⟨[], b :: rest, rfl, by simp, ?_⟩
      intro c hc
      rcases List.mem_cons.mp hc with rfl | hc
      · exact hlt
      · exact hlt.trans (first _ (List.mem_map_of_mem hc))
    · obtain ⟨before, after, rfl, hbefore, hafter⟩ := ih others hrest
      refine ⟨b :: before, after, rfl, ?_, hafter⟩
      intro c hc
      rcases List.mem_cons.mp hc with rfl | hc
      · exact Precedes.of_not_of_ne hlt hne
      · exact hbefore c hc

/-- Between the items before it and those after it, an item stands in ascending order. -/
theorem ascending_between {α : Type} {text : α → String} {before after : List α} {a : α}
    (ascending : AscendingTexts ((before ++ after).map text))
    (hbefore : ∀ b ∈ before, Precedes (text b) (text a))
    (hafter : ∀ c ∈ after, Precedes (text a) (text c)) :
    AscendingTexts ((before ++ a :: after).map text) := by
  rw [AscendingTexts, List.pairwise_map, List.pairwise_append] at ascending
  obtain ⟨hfront, hback, hacross⟩ := ascending
  rw [AscendingTexts, List.pairwise_map, List.pairwise_append]
  refine ⟨hfront, List.pairwise_cons.mpr ⟨hafter, hback⟩, ?_⟩
  intro b hb c hc
  rcases List.mem_cons.mp hc with rfl | hc
  · exact hbefore b hb
  · exact hacross b hb c hc

end ConnectorLifecycle
