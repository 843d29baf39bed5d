import ConnectorLifecycle.Definition.Loading
import ConnectorLifecycle.Proofs.Yaml.Agreement
import ConnectorLifecycle.Proofs.Yaml.Legible

/-!
# A mapping with an entry for the kind

A mapping of settings becomes a definition by one more entry, which names the kind. What the other
entries are held as does not depend on it: only an alias for the whole mapping could tell the two
documents apart, and a mapping that contains itself cannot be held. Reading the mapping directly and
loading the definition from a file can therefore be compared entry by entry.
-/

namespace ConnectorLifecycle

namespace Yaml.Document

/-- A document is a mapping of settings, and another one is the same with an entry for a kind
between its entries. -/
structure AddsKind (d d' : Document) (kind : String) (front back : List (Node × Node)) : Prop where
  /-- The mapping. -/
  root : d.root = some (.mapping none (front ++ back))
  /-- The mapping with the entry. -/
  kinded : ∃ style style', d'.root = some (.mapping none
    (front ++ (.scalar none style "kind", .scalar none style' kind) :: back))
  /-- Anchors keep what they stand for, but one that stands for the mapping now stands for the whole
  of the other. -/
  anchors : ∀ anchor, d'.anchor? anchor = d.anchor? anchor ∨
    d.anchor? anchor = d.root ∧ d'.anchor? anchor = d'.root
  /-- The mapping does not name a kind itself. -/
  kindless : ∀ e ∈ front ++ back, d.text? e.1 ≠ some "kind"

/-- Pairs in two lists are gathered list by list. -/
theorem gathered_append {d : Document} {front back : List (Node × Node)} {kinds : List String}
    {others : List (String × Value)} {count : Nat}
    (h : Gathered d (front ++ back) kinds others count) :
    ∃ k₁ k₂ o₁ o₂ c₁ c₂, Gathered d front k₁ o₁ c₁ ∧ Gathered d back k₂ o₂ c₂ ∧
      kinds = k₁ ++ k₂ ∧ others = o₁ ++ o₂ := by
  induction front generalizing kinds others count with
  | nil => exact ⟨[], kinds, [], others, 0, count, .nil, h, rfl, rfl⟩
  | cons e rest ih =>
    rw [List.cons_append] at h
    cases h with
    | kind named written gathered =>
      obtain ⟨k₁, k₂, o₁, o₂, c₁, c₂, h₁, h₂, rfl, rfl⟩ := ih gathered
      exact ⟨_, k₂, o₁, o₂, _, c₂, .kind named written h₁, h₂, rfl, rfl⟩
    | other named differs held gathered =>
      obtain ⟨k₁, k₂, o₁, o₂, c₁, c₂, h₁, h₂, rfl, rfl⟩ := ih gathered
      exact ⟨k₁, k₂, _, o₂, _, c₂, .other named differs held h₁, h₂, rfl, rfl⟩

/-- Pairs in two lists are named list by list. -/
theorem namedEntries?_append {d : Document} {front back : List (Node × Node)}
    {xs ys : List (String × Node)} (hx : d.namedEntries? front = some xs)
    (hy : d.namedEntries? back = some ys) : d.namedEntries? (front ++ back) = some (xs ++ ys) := by
  induction front generalizing xs with
  | nil =>
    cases hx
    exact hy
  | cons e rest ih =>
    obtain ⟨name, htext, hx⟩ := Option.bind_eq_some_iff.mp hx
    obtain ⟨tail, htail, hx⟩ := Option.bind_eq_some_iff.mp hx
    cases hx
    rw [List.cons_append, namedEntries?, htext, Option.bind_eq_bind, Option.bind_some, ih htail]
    rfl

/-- Pairs in two lists are untagged if those in each of them are. -/
theorem untaggedEntries_append (front back : List (Node × Node)) :
    untaggedEntries (front ++ back) = (untaggedEntries front && untaggedEntries back) := by
  induction front with
  | nil => rfl
  | cons e rest ih =>
    rw [List.cons_append, untaggedEntries, untaggedEntries, ih]
    exact (Bool.and_assoc _ _ _).symm

namespace AddsKind

variable {d d' : Document} {kind : String} {front back : List (Node × Node)}

/-- Nodes stand for the same in both documents, or for the whole of each. -/
theorem follow?_cases (h : AddsKind d d' kind front back) (node : Node) :
    d'.follow? node = d.follow? node ∨ d.follow? node = d.root ∧ d'.follow? node = d'.root := by
  cases node with
  | scalar | sequence | mapping => exact .inl rfl
  | _ => exact h.anchors _

/-- Scalars are the same in both documents. -/
theorem text?_eq (h : AddsKind d d' kind front back) (node : Node) :
    d'.text? node = d.text? node := by
  rcases h.follow?_cases node with same | ⟨whole, whole'⟩
  · rw [Document.text?, Document.text?, same]
  · obtain ⟨style, style', hroot⟩ := h.kinded
    rw [Document.text?, Document.text?, whole, whole', h.root, hroot]

/-- What a part of the definition is held as, it is held as in the mapping alone. -/
theorem held (h : AddsKind d d' kind front back) {whole part : Node} (hroot : d'.root = some whole)
    (stands : d'.follow? whole = some whole) (hpart : Part d' whole part) {depth count : Nat}
    {v : Value} (hheld : Held d' depth part v count) : Held d depth part v count := by
  refine hheld.transfer (P := Part d' whole) (fun hp hinner => .trans hp hinner) ?_ hpart
  intro depth node v count hp hnode
  rcases h.follow?_cases node with same | ⟨_, whole'⟩
  · exact same.symm
  · -- An alias for the whole would be a part of itself.
    have circular : Part d' node node := hp.of_same (by rw [stands, whole', hroot])
    exact absurd circular hnode.not_part_self

/-- Entries of the mapping are named in it as they are gathered in the definition. -/
theorem named_of_gathered (h : AddsKind d d' kind front back) (hd : d.untagged = true)
    {whole : Node} (hroot : d'.root = some whole) (stands : d'.follow? whole = some whole)
    {entries : List (Node × Node)} (kindless : ∀ e ∈ entries, d.text? e.1 ≠ some "kind")
    (parts : ∀ e ∈ entries, Part d' whole e.2) (untagged : untaggedEntries entries = true)
    {kinds : List String} {others : List (String × Value)} {count : Nat}
    (gathered : Gathered d' entries kinds others count) :
    kinds = [] ∧ ∃ named, d.namedEntries? entries = some named ∧
      List.Forall₂ (fun x y => x.1 = y.1 ∧ x.2.untagged = true ∧ Look d x.2 y.2) named others := by
  induction entries generalizing kinds others count with
  | nil =>
    cases gathered
    exact ⟨rfl, [], rfl, .nil⟩
  | cons e rest ih =>
    have others' := fun e he => kindless e (List.mem_cons_of_mem _ he)
    have parts' := fun e he => parts e (List.mem_cons_of_mem _ he)
    cases gathered with
    | kind named => exact absurd (h.text?_eq _ ▸ named) (kindless _ List.mem_cons_self)
    | @other key node name v _ _ _ _ _ named _ held gathered =>
      rw [untaggedEntries, Bool.and_eq_true, Bool.and_eq_true] at untagged
      obtain ⟨⟨_, hnode⟩, hrest⟩ := untagged
      obtain ⟨rfl, xs, hxs, related⟩ := ih others' parts' hrest gathered
      have htext : d.text? key = some name := h.text?_eq key ▸ named
      have look := (h.held hroot stands (parts _ List.mem_cons_self) held).look hd hnode
      refine ⟨rfl, (name, node) :: xs, ?_, .cons ⟨rfl, hnode, look⟩ related⟩
      rw [namedEntries?, htext, Option.bind_eq_bind, Option.bind_some, hxs]
      rfl

/-- Values in two lists of pairs that match stand under the same names. -/
theorem alike_of_related {xs : List (String × Node)} {ys : List (String × Value)}
    (h : List.Forall₂ (fun x y => x.1 = y.1 ∧ x.2.untagged = true ∧ Look d x.2 y.2) xs ys)
    (names : List String) : Alike d names xs ys := by
  intro name _
  induction h with
  | nil => exact .nil
  | @cons x y xs ys first _ ih =>
    obtain ⟨n, node⟩ := x
    obtain ⟨m, v⟩ := y
    obtain ⟨rfl, _, look⟩ := first
    by_cases hn : n = name
    · subst hn
      rw [FieldReader.valuesOf_cons_self, FieldReader.valuesOf_cons_self]
      exact .cons look ih
    · rw [FieldReader.valuesOf_cons_of_ne _ hn, FieldReader.valuesOf_cons_of_ne _ hn]
      exact ih

/-- The nodes that match are untagged. -/
theorem untagged_of_related {xs : List (String × Node)} {ys : List (String × Value)}
    (h : List.Forall₂ (fun x y => x.1 = y.1 ∧ x.2.untagged = true ∧ Look d x.2 y.2) xs ys) :
    ∀ e ∈ xs, e.2.untagged = true := by
  induction h with
  | nil => exact fun e he => absurd he List.not_mem_nil
  | cons first _ ih => exact List.forall_mem_cons.mpr ⟨first.2.1, ih⟩

/-- What the definition gathers beside the kind, the mapping names. -/
theorem rootEntries (h : AddsKind d d' kind front back) (hd : d.untagged = true) {tag : Option Tag}
    {entries : List (Node × Node)} (hroot : d'.root = some (.mapping tag entries))
    {kinds : List String} {others : List (String × Value)} {count : Nat}
    (gathered : Gathered d' entries kinds others count) :
    kinds = [kind] ∧ ∃ named, d.rootEntries? = some named ∧
      (∀ e ∈ named, e.2.untagged = true) ∧ Alike d Settings.fieldNames named others := by
  obtain ⟨style, style', hkinded⟩ := h.kinded
  cases hroot.symm.trans hkinded
  have untagged : untaggedEntries (front ++ back) = true := by
    rw [Document.untagged, h.root, Option.all_some, Bool.and_eq_true, Node.untagged,
      Bool.and_eq_true] at hd
    exact hd.1.2
  rw [untaggedEntries_append, Bool.and_eq_true] at untagged
  have parts : ∀ e ∈ front ++ (.scalar none style "kind", .scalar none style' kind) :: back,
      Part d' (.mapping none
        (front ++ (.scalar none style "kind", .scalar none style' kind) :: back)) e.2 :=
    fun e he => .value rfl he
  obtain ⟨k₁, k₂, o₁, o₂, c₁, c₂, before, after, rfl, rfl⟩ := gathered_append gathered
  obtain ⟨rfl, xs, hxs, hfront⟩ := h.named_of_gathered hd hkinded rfl
    (fun e he => h.kindless e (List.mem_append_left _ he))
    (fun e he => parts e (List.mem_append_left _ he)) untagged.1 before
  cases after with
  | other named differs => exact absurd (Option.some.inj named).symm differs
  | kind _ written after =>
    cases written
    obtain ⟨rfl, ys, hys, hback⟩ := h.named_of_gathered hd hkinded rfl
      (fun e he => h.kindless e (List.mem_append_right _ he))
      (fun e he => parts e (List.mem_append_right _ (List.mem_cons_of_mem _ he))) untagged.2 after
    have related := List.rel_append hfront hback
    refine ⟨rfl, xs ++ ys, ?_, untagged_of_related related, alike_of_related related _⟩
    rw [rootEntries?, h.root]
    exact namedEntries?_append hxs hys

end AddsKind

/-- The settings that are texts look like texts. -/
def TextsLook (d : Document) : Prop :=
  ∀ named, d.rootEntries? = some named → Settings.TextsLook d named

/-- The numbers without sign have none, and the block is no list. -/
def CountsLook (d : Document) : Prop :=
  ∀ named, d.rootEntries? = some named → Settings.CountsLook d named

/-- The keys of the block look like keys. -/
def KeysLook (d : Document) : Prop :=
  ∀ named, d.rootEntries? = some named →
    ∀ x, ("topology-state-transfer", x) ∈ named → StateTransfer.KeysLook d x

end Yaml.Document

open Yaml Document

section

variable {d d' : Document} {kind : String} {front back : List (Node × Node)}

/-- Settings that are read directly have numbers that look like it. -/
theorem Settings.countsLook {settings : Settings} (h : Settings.ofDocument? d = some settings) :
    d.CountsLook := by
  intro named hnamed
  rw [Settings.ofDocument?, hnamed] at h
  exact Settings.countsLook_of_read h

/-- A definition opens its values, names the kind and has texts that look like texts. -/
theorem Definition.textsLook (added : AddsKind d d' kind front back) (hd : d.untagged = true)
    {definition : Definition} (h : Definition.ofDocument? d' = some definition) :
    d'.Opens ∧ d.TextsLook := by
  obtain ⟨tag, entries, others, count, hroot, gathered, hlimit, hread⟩ :=
    Definition.ofDocument?_eq_some_iff.mp h
  refine ⟨⟨tag, entries, _, others, count, hroot, gathered, hlimit⟩, ?_⟩
  intro named hnamed
  obtain ⟨_, named', hnamed', untagged, alike⟩ := added.rootEntries hd hroot gathered
  cases hnamed.symm.trans hnamed'
  exact Settings.textsLook_of_read hd untagged alike hread

/-- Where the keys of the block look like keys, the settings are the same, unless a look misleads
one of the two ways. -/
theorem Definition.ofDocument?_iff (added : AddsKind d d' kind front back) (hd : d.untagged = true)
    (keys : d.KeysLook) (definition : Definition) :
    (definition.kind = kind ∧ Settings.ofDocument? d = some definition.settings) ∧
        d'.Opens ∧ d.TextsLook ↔
      Definition.ofDocument? d' = some definition ∧ d.CountsLook := by
  constructor
  · rintro ⟨⟨rfl, hdirect⟩, ⟨tag, entries, kinds, others, count, hroot, gathered, hlimit⟩, texts⟩
    obtain ⟨rfl, named, hnamed, untagged, alike⟩ := added.rootEntries hd hroot gathered
    refine ⟨?_, Settings.countsLook hdirect⟩
    rw [Settings.ofDocument?, hnamed] at hdirect
    have hread := (Settings.read?_iff hd untagged alike (keys named hnamed) _).mp
      ⟨hdirect, texts named hnamed⟩
    exact Definition.ofDocument?_eq_some_iff.mpr
      ⟨tag, entries, others, count, hroot, gathered, hlimit, hread.1⟩
  · rintro ⟨h, counts⟩
    obtain ⟨opens, texts⟩ := Definition.textsLook added hd h
    refine ⟨?_, opens, texts⟩
    obtain ⟨tag, entries, others, count, hroot, gathered, _, hread⟩ :=
      Definition.ofDocument?_eq_some_iff.mp h
    obtain ⟨hkind, named, hnamed, untagged, alike⟩ := added.rootEntries hd hroot gathered
    have hdirect := (Settings.read?_iff hd untagged alike (keys named hnamed) _).mpr
      ⟨hread, counts named hnamed⟩
    refine ⟨(List.cons.inj hkind).1, ?_⟩
    rw [Settings.ofDocument?, hnamed]
    exact hdirect.1

end

namespace Definition

/-- A directory with one file that may define something loads the definition of that file. -/
theorem loadAll_single {directory text : String} {file : File} {definition : Definition}
    (may : file.mayDefine = true) (content : file.content.text? = some text) :
    loadAll directory (some [file]) = .ok { definitions := [definition], skipped := [] } ↔
      ∃ found, ofYaml? text = some found ∧ definition = found.withNameOr file.stem := by
  have single : orderByText File.name [file] = [file] := rfl
  rw [loadAll]
  simp only [single, List.filter_cons, may, Bool.not_true, if_true, List.filter_nil, ofFiles,
    ofFile, content]
  cases ofYaml? text with
  | none => simp
  | some found => simp [eq_comm]

/-- A mapping of settings is read directly and, with an entry for the kind, loaded from a file. What
is read directly has numbers without sign that look like it. What is loaded opens its values and has
texts that look like texts. Where these looks are right, and those of the keys of the block, the two
ways find the same settings, up to the name that a file gives. -/
theorem loaded_agrees_with_read (directory : String) {s s' kind : String} {d d' : Document}
    {front back : List (Node × Node)} {file : File} (hs : Document.ofText? s = some d)
    (hs' : Document.ofText? s' = some d') (added : AddsKind d d' kind front back)
    (untagged : d.untagged = true) (may : file.mayDefine = true)
    (content : file.content.text? = some s') :
    (∀ settings, Settings.ofYaml? s = some settings → d.CountsLook) ∧
    (∀ definition,
      loadAll directory (some [file]) = .ok { definitions := [definition], skipped := [] } →
      d'.Opens ∧ d.TextsLook) ∧
    (d.KeysLook → ∀ definition,
      (∃ settings, Settings.ofYaml? s = some settings ∧
          definition = ⟨kind, { settings with name := some (settings.name.getD file.stem) }⟩) ∧
          d'.Opens ∧ d.TextsLook ↔
        loadAll directory (some [file]) = .ok { definitions := [definition], skipped := [] } ∧
          d.CountsLook) := by
  have direct : Settings.ofYaml? s = Settings.ofDocument? d := by rw [Settings.ofYaml?, hs]; rfl
  have loaded : ofYaml? s' = ofDocument? d' := by rw [ofYaml?, hs']; rfl
  have renamed : ∀ settings : Settings, (⟨kind, settings⟩ : Definition).withNameOr file.stem =
      ⟨kind, { settings with name := some (settings.name.getD file.stem) }⟩ := by
    intro settings
    rw [withNameOr, Option.or_some]
  simp only [loadAll_single may content, direct, loaded]
  refine ⟨fun settings h => Settings.countsLook h, ?_, ?_⟩
  · rintro definition ⟨found, hfound, _⟩
    exact textsLook added untagged hfound
  · intro keys definition
    constructor
    · rintro ⟨⟨settings, hsettings, rfl⟩, opens, texts⟩
      obtain ⟨hfound, counts⟩ := (ofDocument?_iff added untagged keys ⟨kind, settings⟩).mp
        ⟨⟨rfl, hsettings⟩, opens, texts⟩
      exact ⟨⟨_, hfound, (renamed settings).symm⟩, counts⟩
    · rintro ⟨⟨found, hfound, rfl⟩, counts⟩
      obtain ⟨⟨rfl, hsettings⟩, opens, texts⟩ :=
        (ofDocument?_iff added untagged keys found).mpr ⟨hfound, counts⟩
      exact ⟨⟨found.settings, hsettings, renamed found.settings⟩, opens, texts⟩

/-- A plain key with a plain value. -/
def plainEntry (key value : String) : Node × Node :=
  (.scalar none .plain key, .scalar none .plain value)

/-- A mapping of plain settings, two of which are given. -/
def plainSettings : Document :=
  ⟨some (.mapping none
    [plainEntry "cache-container" "local", plainEntry "worker-threads" "64"]), []⟩

/-- The same with an entry for the kind in front. -/
def plainDefinition : Document :=
  ⟨some (.mapping none [plainEntry "kind" "web", plainEntry "cache-container" "local",
    plainEntry "worker-threads" "64"]), []⟩

/-- A file with this definition. -/
def plainFile : File :=
  ⟨"a.yml", .bytes "kind: web\ncache-container: local\nworker-threads: 64\n".toUTF8⟩

/-- Settings that look like what they are pass both ways, and the file gives the name. -/
theorem plain_settings_pass :
    Settings.ofYaml? "cache-container: local\nworker-threads: 64\n" =
        some { cacheContainer := some "local", workerThreads := some 64 } ∧
      plainDefinition.Opens ∧ plainSettings.TextsLook ∧
      loadAll "conf" (some [plainFile]) =
        .ok
          { definitions :=
              [⟨"web", { name := some "a", cacheContainer := some "local",
                         workerThreads := some 64 }⟩]
            skipped := [] } ∧
      plainSettings.CountsLook := by
  have hs : Document.ofText? "cache-container: local\nworker-threads: 64\n" =
      some plainSettings := by decide +kernel
  have hs' : Document.ofText? "kind: web\ncache-container: local\nworker-threads: 64\n" =
      some plainDefinition := by decide +kernel
  have added : AddsKind plainSettings plainDefinition "web" []
      [plainEntry "cache-container" "local", plainEntry "worker-threads" "64"] := by
    refine ⟨rfl, ⟨.plain, .plain, rfl⟩, fun _ => .inl rfl, ?_⟩
    simp [Document.text?, follow?, plainEntry]
  have may : plainFile.mayDefine = true := by decide
  have content : plainFile.content.text? =
      some "kind: web\ncache-container: local\nworker-threads: 64\n" := by decide +kernel
  have read : Settings.ofYaml? "cache-container: local\nworker-threads: 64\n" =
      some { cacheContainer := some "local", workerThreads := some 64 } := by decide +kernel
  have opens : plainDefinition.Opens := by
    apply opens_of_canGather rfl
    simp only [plainEntry, List.forall_mem_cons, List.not_mem_nil, false_imp_iff, implies_true,
      and_true]
    refine ⟨⟨none, .plain, "kind", rfl, ?_⟩, ⟨none, .plain, "cache-container", rfl, ?_⟩,
      ⟨none, .plain, "worker-threads", rfl, ?_⟩⟩
    · exact ⟨none, .plain, "web", rfl⟩
    · exact ⟨rfl, by decide⟩
    · exact ⟨rfl, by decide⟩
  have looks : plainSettings.TextsLook := by
    intro named hnamed
    cases hnamed
    constructor
    · intro name hname x hx text v stands means
      simp only [List.mem_cons, Prod.mk.injEq, List.not_mem_nil, or_false] at hx
      rcases hx with ⟨rfl, rfl⟩ | ⟨rfl, rfl⟩
      · cases stands
        have textual : Meaning.value? "local" = some (.text "local") := rfl
        exact .inr (Option.some.inj (means.symm.trans textual))
      · simp [Settings.textNames] at hname
    · intro x hx
      simp at hx
  have keys : plainSettings.KeysLook := by
    intro named hnamed x hx
    cases hnamed
    simp at hx
  obtain ⟨_, _, agree⟩ := loaded_agrees_with_read "conf" hs hs' added rfl may content
  have both := (agree keys _).mp ⟨⟨_, read, rfl⟩, opens, looks⟩
  exact ⟨read, opens, looks, both⟩

/-- A name that is written in digits passes one way only: it is read directly, but in a definition
it is a number, and the file is skipped. -/
theorem name_in_digits_is_skipped :
    (∃ d d' front back, Document.ofText? "name: 64\n" = some d ∧
      Document.ofText? "kind: web\nname: 64\n" = some d' ∧ AddsKind d d' "web" front back ∧
      d.untagged = true) ∧
    Settings.ofYaml? "name: 64\n" = some { name := some "64" } ∧
    loadAll "conf" (some [⟨"web.yaml", .bytes "kind: web\nname: 64\n".toUTF8⟩]) =
      .ok { definitions := [], skipped := [.skippedUndecodable "conf/web.yaml"] } := by
  refine ⟨?_, by decide +kernel, by decide +kernel⟩
  refine ⟨⟨some (.mapping none [plainEntry "name" "64"]), []⟩,
    ⟨some (.mapping none [plainEntry "kind" "web", plainEntry "name" "64"]),
      []⟩, [], [plainEntry "name" "64"], by decide +kernel, by decide +kernel, ?_, rfl⟩
  refine ⟨rfl, ⟨.plain, .plain, rfl⟩, fun _ => .inl rfl, ?_⟩
  simp [Document.text?, follow?, plainEntry]

end Definition

end ConnectorLifecycle
