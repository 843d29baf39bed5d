import Mathlib.Data.List.Dedup
import ConnectorLifecycle.Bindings.Loading
import ConnectorLifecycle.Proofs.Entries

/-!
# What a table of bindings holds

Filling a table from pairs of texts succeeds exactly if every text is an address, also one under a
name that comes again, and else ends with the first text that is none. What was filled answers with
the address of the last text under a name. A file is decoded to one text for each name before any
text is looked at, so loading it has no need of an order: every list that has just the last text
under each name fills the same table, or is refused for one of the texts that are no addresses.
-/

namespace ConnectorLifecycle.Bindings

/-- A text is the text of an address. -/
def IsAddress (text : String) : Prop := ∃ a, SocketAddress.ofText? text = some a

variable {t u : Bindings} {pairs order : List (String × String)} {name text : String}
  {f : BindingFailure}

section Filling

/-- A pair whose text is an address is written, and the others follow. -/
theorem insertPairs_cons {a : SocketAddress} (h : SocketAddress.ofText? text = some a)
    (rest : List (String × String)) :
    insertPairs t ((name, text) :: rest) = insertPairs (t.insert name a) rest := by
  simp only [insertPairs, address, h]
  rfl

/-- A text that is no address ends the filling. -/
theorem insertPairs_cons_refused (h : SocketAddress.ofText? text = none)
    (rest : List (String × String)) :
    insertPairs t ((name, text) :: rest) = .error (.malformed name text) := by
  simp only [insertPairs, address, h]
  rfl

/-- Pairs are written one list after the other. -/
theorem insertPairs_append (rest : List (String × String))
    (h : insertPairs t pairs = .ok u) : insertPairs t (pairs ++ rest) = insertPairs u rest := by
  induction pairs generalizing t with
  | nil =>
    cases h
    rfl
  | cons pair pairs ih =>
    obtain ⟨name, text⟩ := pair
    cases htext : SocketAddress.ofText? text with
    | none =>
      rw [insertPairs_cons_refused htext] at h
      cases h
    | some a =>
      rw [insertPairs_cons htext] at h
      rw [List.cons_append, insertPairs_cons htext, ih h]

/-- A table is filled exactly if every text is an address. -/
theorem exists_insertPairs_iff (t : Bindings) (pairs : List (String × String)) :
    (∃ u, insertPairs t pairs = .ok u) ↔ ∀ pair ∈ pairs, IsAddress pair.2 := by
  induction pairs generalizing t with
  | nil => exact iff_of_true ⟨t, rfl⟩ fun pair hmem => absurd hmem List.not_mem_nil
  | cons pair rest ih =>
    obtain ⟨name, text⟩ := pair
    rw [List.forall_mem_cons]
    cases htext : SocketAddress.ofText? text with
    | none =>
      rw [insertPairs_cons_refused htext]
      refine iff_of_false (fun ⟨u, hu⟩ => nomatch hu) fun ⟨⟨a, ha⟩, _⟩ => ?_
      rw [htext] at ha
      cases ha
    | some a =>
      rw [insertPairs_cons htext, ih]
      exact ⟨fun hrest => ⟨⟨a, htext⟩, hrest⟩, And.right⟩

/-- Filling ends with the first text that is no address. -/
theorem insertPairs_eq_error_iff :
    insertPairs t pairs = .error f ↔ ∃ before name text after,
      pairs = before ++ (name, text) :: after ∧ (∀ pair ∈ before, IsAddress pair.2) ∧
        ¬ IsAddress text ∧ f = .malformed name text := by
  induction pairs generalizing t with
  | nil =>
    refine iff_of_false (fun h => nomatch h) ?_
    rintro ⟨before, name, text, after, split, _⟩
    exact absurd split.symm (List.append_ne_nil_of_right_ne_nil before (List.cons_ne_nil _ _))
  | cons pair rest ih =>
    obtain ⟨name, text⟩ := pair
    cases htext : SocketAddress.ofText? text with
    | none =>
      have refused : ¬ IsAddress text := fun ⟨a, ha⟩ => by rw [htext] at ha; cases ha
      rw [insertPairs_cons_refused htext]
      constructor
      · intro h
        cases h
        exact ⟨[], name, text, rest, rfl, fun _ hmem => absurd hmem List.not_mem_nil, refused, rfl⟩
      · rintro ⟨before, name', text', after, split, valid, _, rfl⟩
        cases before with
        | nil =>
          cases (List.cons.inj split).1
          rfl
        | cons first before =>
          obtain ⟨rfl, _⟩ := List.cons.inj split
          exact absurd (valid _ List.mem_cons_self) refused
    | some a =>
      rw [insertPairs_cons htext, ih]
      constructor
      · rintro ⟨before, name', text', after, rfl, valid, refused, rfl⟩
        exact ⟨(name, text) :: before, name', text', after, rfl,
          List.forall_mem_cons.mpr ⟨⟨a, htext⟩, valid⟩, refused, rfl⟩
      · rintro ⟨before, name', text', after, split, valid, refused, rfl⟩
        cases before with
        | nil =>
          cases (List.cons.inj split).1
          exact absurd ⟨a, htext⟩ refused
        | cons first before =>
          obtain ⟨_, rfl⟩ := List.cons.inj split
          exact ⟨before, name', text', after, rfl, (List.forall_mem_cons.mp valid).2, refused, rfl⟩

/-- What was filled answers with the address of the last text under a name. -/
theorem get?_insertPairs (h : insertPairs t pairs = .ok u) (name : String) :
    u.get? name =
      ((Table.find name pairs.reverse).bind SocketAddress.ofText?).or (t.get? name) := by
  induction pairs generalizing t with
  | nil =>
    cases h
    rfl
  | cons pair rest ih =>
    obtain ⟨k, text⟩ := pair
    cases htext : SocketAddress.ofText? text with
    | none =>
      rw [insertPairs_cons_refused htext] at h
      cases h
    | some a =>
      have valid : ∀ pair ∈ rest, IsAddress pair.2 :=
        (exists_insertPairs_iff _ _).mp ⟨u, by rwa [insertPairs_cons htext] at h⟩
      rw [insertPairs_cons htext] at h
      rw [ih h, Table.get?_insert, List.reverse_cons, Table.find_append]
      cases hfind : Table.find name rest.reverse with
      | none =>
        by_cases hname : name = k
        · simp [Table.find, hname, htext]
        · simp [Table.find, hname, Ne.symm hname]
      | some last =>
        obtain ⟨before, after, split, _⟩ := Table.find_eq_some_iff.mp hfind
        have hmem : (name, last) ∈ rest := by
          rw [← List.mem_reverse, split]
          exact List.mem_append_cons_self
        obtain ⟨b, hb⟩ := valid _ hmem
        simp [hb]

end Filling

section Tables

/-- The table of a list answers with the address of the last text under a name. -/
theorem get?_ofPairs (h : ofPairs pairs = .ok u) (name : String) :
    u.get? name = ((Table.ofList pairs).get? name).bind SocketAddress.ofText? := by
  rw [get?_insertPairs h, Table.ofList, Table.get?_insertAll, Table.get?_empty, Table.get?_empty,
    Option.or_none, Option.or_none]

/-- The last text under a name is an address, and the name has it. -/
theorem resolve_of_lastUnder (h : ofPairs pairs = .ok u) (last : LastUnder name text pairs) :
    ∃ a, SocketAddress.ofText? text = some a ∧ u.resolve name = .ok a := by
  have hmem : (name, text) ∈ pairs := by
    obtain ⟨before, after, rfl, _⟩ := last
    exact List.mem_append_cons_self
  obtain ⟨a, ha⟩ := (exists_insertPairs_iff _ _).mp ⟨u, h⟩ _ hmem
  refine ⟨a, ha, ?_⟩
  rw [resolve, get?_ofPairs h, Table.get?_ofList_eq_some_iff.mpr last, Option.bind_some, ha]

/-- A name that is not listed has no address. -/
theorem resolve_of_not_mem (h : ofPairs pairs = .ok u) (absent : name ∉ pairs.map Prod.fst) :
    u.resolve name = .error (.undefined name) := by
  rw [resolve, get?_ofPairs h, Table.get?_ofList_eq_none_iff.mpr absent]
  rfl

/-- The address of a name is the one that its last text denotes. -/
theorem exists_text_of_resolve {a : SocketAddress} (h : ofPairs pairs = .ok u)
    (resolved : u.resolve name = .ok a) :
    ∃ text, LastUnder name text pairs ∧ SocketAddress.ofText? text = some a := by
  by_cases listed : name ∈ pairs.map Prod.fst
  · obtain ⟨text, last⟩ := exists_lastUnder.mpr listed
    obtain ⟨b, htext, hb⟩ := resolve_of_lastUnder h last
    rw [resolved] at hb
    rw [← Except.ok.inj hb] at htext
    exact ⟨text, last, htext⟩
  · rw [resolve_of_not_mem h listed] at resolved
    cases resolved

/-- A table has the names that are listed, each once. -/
theorem size_ofPairs (h : ofPairs pairs = .ok u) :
    u.size = (pairs.map Prod.fst).dedup.length := by
  have same : u.keys.Perm (pairs.map Prod.fst).dedup := by
    refine (List.perm_ext_iff_of_nodup u.nodup_keys (List.nodup_dedup _)).mpr fun name => ?_
    change name ∈ u.keys ↔ _
    rw [List.mem_dedup, Table.mem_keys_iff]
    constructor
    · intro known
      by_contra absent
      have hnone := resolve_of_not_mem h absent
      obtain ⟨a, ha⟩ := Option.isSome_iff_exists.mp known
      rw [resolve, ha] at hnone
      cases hnone
    · intro listed
      obtain ⟨text, last⟩ := exists_lastUnder.mpr listed
      obtain ⟨a, htext, _⟩ := resolve_of_lastUnder h last
      rw [get?_ofPairs h, Table.get?_ofList_eq_some_iff.mpr last, Option.bind_some, htext]
      rfl
  rw [← same.length_eq, Table.size, Table.keys, List.length_map]

/-- Lists that make one table of texts make one table of addresses, if both are accepted. -/
theorem eq_of_same_texts {v : Bindings} (same : Table.ofList order = Table.ofList pairs)
    (h : ofPairs pairs = .ok u) (h' : ofPairs order = .ok v) : v = u := by
  apply Table.ext_get
  intro name
  rw [get?_ofPairs h, get?_ofPairs h', same]

end Tables

section Orders

/-- What refuses a table is the text of a pair. -/
theorem exists_mem_of_ofPairs_eq_error (h : ofPairs pairs = .error f) :
    ∃ name text, (name, text) ∈ pairs ∧ ¬ IsAddress text ∧ f = .malformed name text := by
  obtain ⟨before, name, text, after, rfl, _, refused, hf⟩ := insertPairs_eq_error_iff.mp h
  exact ⟨name, text, List.mem_append_cons_self, refused, hf⟩

/-- What is accepted in one order is accepted in every order. -/
theorem ofPairs_eq_ok_of_perm (perm : order.Perm pairs) (distinct : (pairs.map Prod.fst).Nodup)
    (h : ofPairs pairs = .ok u) : ofPairs order = .ok u := by
  have valid : ∀ pair ∈ pairs, IsAddress pair.2 := (exists_insertPairs_iff _ _).mp ⟨u, h⟩
  obtain ⟨v, hv⟩ := (exists_insertPairs_iff Table.empty order).mpr fun pair hmem =>
    valid pair (perm.mem_iff.mp hmem)
  have same : Table.ofList order = Table.ofList pairs :=
    (Table.ofList_of_perm perm.symm distinct).symm
  rwa [eq_of_same_texts same h hv] at hv

/-- The order of different names does not decide what is accepted, nor what is filled. -/
theorem ofPairs_eq_ok_iff_of_perm (perm : order.Perm pairs)
    (distinct : (pairs.map Prod.fst).Nodup) : ofPairs order = .ok u ↔ ofPairs pairs = .ok u := by
  have distinct' : (order.map Prod.fst).Nodup := (perm.map Prod.fst).nodup_iff.mpr distinct
  exact ⟨ofPairs_eq_ok_of_perm perm.symm distinct', ofPairs_eq_ok_of_perm perm distinct⟩

/-- At most one pair of a list has a text that is no address. -/
def AtMostOneFault (pairs : List (String × String)) : Prop :=
  ∀ pair ∈ pairs, ∀ other ∈ pairs, ¬ IsAddress pair.2 → ¬ IsAddress other.2 → pair = other

/-- If one pair alone is refused, it is the one that is named, in every order. -/
theorem ofPairs_eq_of_perm (perm : order.Perm pairs) (distinct : (pairs.map Prod.fst).Nodup)
    (single : AtMostOneFault pairs) : ofPairs order = ofPairs pairs := by
  cases hpairs : ofPairs pairs with
  | ok u => exact ofPairs_eq_ok_of_perm perm distinct hpairs
  | error f =>
    cases horder : ofPairs order with
    | ok v =>
      rw [ofPairs_eq_ok_iff_of_perm perm distinct, hpairs] at horder
      cases horder
    | error g =>
      obtain ⟨name, text, hmem, refused, rfl⟩ := exists_mem_of_ofPairs_eq_error hpairs
      obtain ⟨name', text', hmem', refused', rfl⟩ := exists_mem_of_ofPairs_eq_error horder
      have hsame : (name, text) = (name', text') :=
        single _ hmem _ (perm.mem_iff.mp hmem') refused refused'
      cases hsame
      rfl

/-- One list has just the last text that another one has under each name, in any order. -/
structure Collapses (listed order : List (String × String)) : Prop where
  /-- No name comes again. -/
  distinct : (order.map Prod.fst).Nodup
  /-- Under each name is what was last under it. -/
  last : ∀ name text, (name, text) ∈ order ↔ LastUnder name text listed

/-- The table of a list has the last text under each name. -/
theorem collapses_entries (listed : List (String × String)) :
    Collapses listed (Table.ofList listed).entries where
  distinct := (Table.ofList listed).nodup_keys
  last name text := by rw [← Table.get?_eq_some_iff_mem, Table.get?_ofList_eq_some_iff]

namespace Collapses

variable {listed order' : List (String × String)}

/-- Two lists with the last text under each name differ only in their order. -/
theorem perm (h : Collapses listed order) (h' : Collapses listed order') : order.Perm order' := by
  refine (List.perm_ext_iff_of_nodup h.distinct.of_map h'.distinct.of_map).mpr ?_
  rintro ⟨name, text⟩
  rw [h.last, h'.last]

/-- With the last text under each name the same table of texts is made. -/
theorem ofList_eq (h : Collapses listed order) : Table.ofList order = Table.ofList listed := by
  rw [Table.ofList_of_perm (h.perm (collapses_entries listed)) h.distinct, Table.ofList_entries]

/-- If all texts are accepted, those that are last under their names fill the same table. -/
theorem ofPairs_eq_ok (h : Collapses pairs order) (accepted : ofPairs pairs = .ok u) :
    ofPairs order = .ok u := by
  have valid : ∀ pair ∈ pairs, IsAddress pair.2 := (exists_insertPairs_iff _ _).mp ⟨u, accepted⟩
  obtain ⟨v, hv⟩ := (exists_insertPairs_iff Table.empty order).mpr fun ⟨name, text⟩ hmem => by
    obtain ⟨before, after, rfl, _⟩ := (h.last name text).mp hmem
    exact valid (name, text) List.mem_append_cons_self
  change ofPairs order = .ok v at hv
  rwa [eq_of_same_texts h.ofList_eq accepted hv] at hv

end Collapses

end Orders

section Files

/-- The names and texts that a text in YAML lists, with every repetition. -/
def listedPairs? (text : String) : Option (List (String × String)) := do
  let d ← Yaml.Document.ofText? text
  let entries ← d.rootEntries?
  entries.mapM fun (name, node) => do some (name, ← d.text? node)

/-- What is listed is brought down to the last text under each name. -/
theorem pairsOfYaml?_eq (text : String) :
    pairsOfYaml? text = (listedPairs? text).map fun listed => (Table.ofList listed).entries := by
  unfold pairsOfYaml? pairsOfDocument? listedPairs?
  cases Yaml.Document.ofText? text with
  | none => rfl
  | some d =>
    cases hroot : d.rootEntries? with
    | none => simp [hroot]
    | some entries =>
      simp only [hroot, Option.bind_eq_bind, Option.bind_some, Option.map_eq_bind]
      rfl

variable {path : String} {content : Option FileContent} {listed : List (String × String)}

/-- A file that lists pairs is loaded from the last text under each name. -/
theorem load_of_listed (readable : content.bind FileContent.text? = some text)
    (decoded : listedPairs? text = some listed) :
    load path content =
      (ofPairs (Table.ofList listed).entries).mapError (.invalidBinding path) := by
  rw [load, readable]
  simp only [pairsOfYaml?_eq, decoded, Option.map_some]
  cases ofPairs (Table.ofList listed).entries with
  | ok bindings => rfl
  | error cause => rfl

/-- Every order of the last texts is accepted exactly if the file is, and fills the table that the
file has. -/
theorem load_eq_ok_iff (readable : content.bind FileContent.text? = some text)
    (decoded : listedPairs? text = some listed) (h : Collapses listed order) :
    load path content = .ok u ↔ ofPairs order = .ok u := by
  have perm : order.Perm (Table.ofList listed).entries := h.perm (collapses_entries listed)
  rw [load_of_listed readable decoded, ofPairs_eq_ok_iff_of_perm perm (Table.nodup_keys _)]
  cases ofPairs (Table.ofList listed).entries with
  | ok v => exact ⟨fun hload => by cases hload; rfl, fun hpairs => by cases hpairs; rfl⟩
  | error f => exact iff_of_false nofun nofun

/-- A file with at most one text that is refused is loaded as every order of its last texts is. -/
theorem load_eq_of_atMostOneFault (readable : content.bind FileContent.text? = some text)
    (decoded : listedPairs? text = some listed) (h : Collapses listed order)
    (single : AtMostOneFault order) :
    load path content = (ofPairs order).mapError (.invalidBinding path) := by
  have perm : (Table.ofList listed).entries.Perm order := (collapses_entries listed).perm h
  rw [load_of_listed readable decoded, ofPairs_eq_of_perm perm h.distinct single]

/-- A file whose texts are refused is refused for one of them that is last under its name. -/
theorem exists_mem_of_load_eq_error {failure : LoadFailure}
    (readable : content.bind FileContent.text? = some text)
    (decoded : listedPairs? text = some listed) (h : Collapses listed order)
    (refused : load path content = .error failure) :
    ∃ name text, (name, text) ∈ order ∧ ¬ IsAddress text ∧
      failure = .invalidBinding path (.malformed name text) := by
  have perm : order.Perm (Table.ofList listed).entries := h.perm (collapses_entries listed)
  rw [load_of_listed readable decoded] at refused
  cases hpairs : ofPairs (Table.ofList listed).entries with
  | ok v =>
    rw [hpairs] at refused
    cases refused
  | error f =>
    rw [hpairs] at refused
    obtain rfl : .invalidBinding path f = failure := Except.error.inj refused
    obtain ⟨name, text, hmem, hrefused, rfl⟩ := exists_mem_of_ofPairs_eq_error hpairs
    exact ⟨name, text, perm.mem_iff.mpr hmem, hrefused, rfl⟩

end Files

/-- A list of pairs fills a table exactly if every text is an address, also one under a name that
comes again. Then each name has the address of the last text under it, a name that is not listed has
none, and there are as many names as different ones are listed; otherwise the first text that is no
address is named. If no name comes again the order does not matter, but for which one of several
refused texts is named. What a file lists is first brought down to the last text under each name;
the file is loaded as these are in any order, and where the whole list is accepted they fill the
same table. -/
theorem tables_by_last_text_and_first_fault (pairs : List (String × String)) :
    ((∃ bindings, ofPairs pairs = .ok bindings) ↔ ∀ pair ∈ pairs, IsAddress pair.2) ∧
    (∀ bindings, ofPairs pairs = .ok bindings →
      (∀ name text, LastUnder name text pairs →
        ∃ a, SocketAddress.ofText? text = some a ∧ bindings.resolve name = .ok a) ∧
      (∀ name, name ∉ pairs.map Prod.fst → bindings.resolve name = .error (.undefined name)) ∧
      bindings.size = (pairs.map Prod.fst).dedup.length) ∧
    (∀ failure, ofPairs pairs = .error failure ↔ ∃ before name text after,
      pairs = before ++ (name, text) :: after ∧ (∀ pair ∈ before, IsAddress pair.2) ∧
        ¬ IsAddress text ∧ failure = .malformed name text) ∧
    (∀ order, order.Perm pairs → (pairs.map Prod.fst).Nodup →
      (∀ bindings, ofPairs order = .ok bindings ↔ ofPairs pairs = .ok bindings) ∧
      (∀ failure, ofPairs order = .error failure → ∃ name text,
        (name, text) ∈ pairs ∧ ¬ IsAddress text ∧ failure = .malformed name text) ∧
      (AtMostOneFault pairs → ofPairs order = ofPairs pairs)) ∧
    (∀ order bindings, Collapses pairs order → ofPairs pairs = .ok bindings →
      ofPairs order = .ok bindings) ∧
    (∀ path content text, content.bind FileContent.text? = some text →
      listedPairs? text = some pairs →
      (∃ order, Collapses pairs order) ∧
      ∀ order, Collapses pairs order →
        (∀ bindings, load path content = .ok bindings ↔ ofPairs order = .ok bindings) ∧
        (∀ failure, load path content = .error failure → ∃ name text,
          (name, text) ∈ order ∧ ¬ IsAddress text ∧
            failure = .invalidBinding path (.malformed name text)) ∧
        (AtMostOneFault order →
          load path content = (ofPairs order).mapError (.invalidBinding path))) := by
  refine ⟨exists_insertPairs_iff _ _, ?_, fun _ => insertPairs_eq_error_iff, ?_, ?_, ?_⟩
  · intro bindings h
    exact ⟨fun name text last => resolve_of_lastUnder h last,
      fun name absent => resolve_of_not_mem h absent, size_ofPairs h⟩
  · intro order perm distinct
    refine ⟨fun bindings => ofPairs_eq_ok_iff_of_perm perm distinct, fun failure h => ?_,
      ofPairs_eq_of_perm perm distinct⟩
    obtain ⟨name, text, hmem, refused, hfailure⟩ := exists_mem_of_ofPairs_eq_error h
    exact ⟨name, text, perm.mem_iff.mp hmem, refused, hfailure⟩
  · intro order bindings collapses h
    exact collapses.ofPairs_eq_ok h
  · intro path content text readable decoded
    refine ⟨⟨_, collapses_entries pairs⟩, fun order collapses => ⟨fun bindings => ?_, ?_, ?_⟩⟩
    · exact load_eq_ok_iff readable decoded collapses
    · exact fun failure h => exists_mem_of_load_eq_error readable decoded collapses h
    · exact load_eq_of_atMostOneFault readable decoded collapses

/-- A text that no name keeps still ends the filling. -/
example : ofPairs [("http", "localhost"), ("http", "127.0.0.1:8080")] =
    .error (.malformed "http" "localhost") := by decide

end ConnectorLifecycle.Bindings
