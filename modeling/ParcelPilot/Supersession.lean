import Mathlib.Data.List.Perm.Basic
import ParcelPilot.Dictionaries
import ParcelPilot.Raising
import ParcelPilot.SourceMetadata

namespace ParcelPilot

section Supersession

variable [Formats] {sources order other : List (String × SourceDocument)}
  {pages : List (String × ParsedPage)} {manifestById : List (String × ManifestEntry)}
  {source : String × SourceDocument} {version : String} {raw link : Option String}
  {carrier : String → Option String}

def carriers (sources : List (String × SourceDocument)) (version : String) :
    List (String × SourceDocument) := sources.filter fun source => orText source.2.version none = some version

def RefersTo (raw : Option String) (version : String) : Prop :=
  ∃ text, raw = some text ∧ parseVersion text = some version

-- A link names the carrier of the version that the text refers to, or there is
-- neither text nor link.
def Linked (carrier : String → Option String) (raw link : Option String) : Prop :=
  (raw = none ∧ link = none) ∨
    ∃ version target, RefersTo raw version ∧ carrier version = some target ∧ link = some target

def Settled (pages : List (String × ParsedPage)) (manifestById : List (String × ManifestEntry))
    (carrier : String → Option String) (source : String × SourceDocument) : Prop :=
  ∃ page entry, Py.dictGet pages source.1 = some page ∧ Py.dictGet manifestById source.1 = some entry ∧
    Linked carrier (page.field "Supersedes") entry.supersedes ∧
    Linked carrier (page.field "Superseded by") entry.supersededBy

def PointsToOnly (sources : List (String × SourceDocument)) (raw link : Option String) : Prop :=
  ∀ target, link = some target →
    ∃ version, RefersTo raw version ∧ (carriers sources version).map (·.1) = [target]

-- Every order of the sources resolves to the same links or fails, and the links
-- that are resolved are unambiguous.
structure OrderIndependent (sources : List (String × SourceDocument))
    (pages : List (String × ParsedPage)) (manifestById : List (String × ManifestEntry)) : Prop where
  same : ∀ order other, order.Perm sources → other.Perm sources →
    (∃ one two, resolveSupersession order pages manifestById = .ok one ∧
      resolveSupersession other pages manifestById = .ok two ∧ one.Perm two) ∨
    ∃ one two, resolveSupersession order pages manifestById = .error one ∧
      resolveSupersession other pages manifestById = .error two
  only : ∀ order resolved, order.Perm sources →
    resolveSupersession order pages manifestById = .ok resolved →
      ∀ source ∈ resolved, ∀ page, Py.dictGet pages source.1 = some page →
        PointsToOnly sources (page.field "Supersedes") source.2.supersedes ∧
        PointsToOnly sources (page.field "Superseded by") source.2.supersededBy

-- The links of the manifest are right for some choice of a carrier for each version.
def LinksFit (sources : List (String × SourceDocument)) (pages : List (String × ParsedPage))
    (manifestById : List (String × ManifestEntry)) : Prop :=
  ∃ carrier : String → Option String,
    (∀ version target, carrier version = some target → target ∈ (carriers sources version).map (·.1)) ∧
    ∀ source ∈ sources, Settled pages manifestById carrier source

def CarriedOnce (sources : List (String × SourceDocument)) (pages : List (String × ParsedPage)) : Prop :=
  ∀ source ∈ sources, ∀ page version, Py.dictGet pages source.1 = some page →
    RefersTo (page.field "Supersedes") version ∨ RefersTo (page.field "Superseded by") version →
      (carriers sources version).length = 1

-- The carrier that the loop finds: the last one.
def lastCarrier (sources : List (String × SourceDocument)) (version : String) : Option String :=
  (carriers sources version).getLast?.map (·.1)

omit [Formats] in
theorem versionToId_get (sources : List (String × SourceDocument)) (version : String) :
    Py.dictGet (versionToId sources) version = lastCarrier sources version := by
  induction sources using List.reverseRecOn with
  | nil => rfl
  | append_singleton sources last ih =>
      unfold versionToId lastCarrier carriers at ih ⊢
      rw [List.foldl_append,List.foldl_cons,List.foldl_nil,List.filter_append]
      obtain ⟨sourceId,doc⟩ := last
      dsimp only
      cases stated : orText doc.version none with
      | none => simpa [stated] using ih
      | some found =>
          dsimp only
          rw [Py.dictGet_set]
          by_cases same : found = version
          · simp [stated,same]
          · simpa [stated,same] using ih

theorem refersTo_same {one two : String} (first : RefersTo raw one) (second : RefersTo raw two) :
    one = two := by
  obtain ⟨text,rfl,parsed⟩ := first
  obtain ⟨_,⟨⟩,again⟩ := second
  exact Option.some.inj (parsed.symm.trans again)

theorem resolveReference_ok {sourceId : String} :
    resolveReference raw (versionToId sources) sourceId = .ok link ↔
      Linked (lastCarrier sources) raw link := by
  unfold resolveReference Linked RefersTo
  cases raw with
  | none =>
      constructor
      · rintro ⟨⟩
        exact .inl ⟨rfl,rfl⟩
      · rintro (⟨_,rfl⟩ | ⟨version,target,⟨_,⟨⟩,_⟩,_⟩)
        rfl
  | some text =>
      dsimp only
      cases parsed : parseVersion text with
      | none => simp [parsed]
      | some version =>
          dsimp only
          rw [versionToId_get]
          cases held : lastCarrier sources version with
          | none => simp [parsed,held]
          | some target => simp [parsed,held,eq_comm]

-- What a source becomes once its links have been compared with the manifest.
def relinked (manifestById : List (String × ManifestEntry)) (source : String × SourceDocument) :
    String × SourceDocument :=
  match Py.dictGet manifestById source.1 with
  | none => source
  | some entry => (source.1,{source.2 with
      supersedes := entry.supersedes, supersededBy := entry.supersededBy})

theorem subscript_ok {α : Type} {mapping : List (String × α)} {key : String} {value : α} :
    subscript mapping key = .ok value ↔ Py.dictGet mapping key = some value := by
  unfold subscript
  cases Py.dictGet mapping key with
  | none => simp
  | some held => simp

theorem resolveLinks_ok {sourceId : String} {doc resolved : SourceDocument} {page : ParsedPage} :
    resolveLinks (versionToId sources) sourceId doc page manifestById = .ok resolved ↔
      ∃ entry, Py.dictGet manifestById sourceId = some entry ∧
        Linked (lastCarrier sources) (page.field "Supersedes") entry.supersedes ∧
        Linked (lastCarrier sources) (page.field "Superseded by") entry.supersededBy ∧
        resolved = {doc with supersedes := entry.supersedes, supersededBy := entry.supersededBy} := by
  unfold resolveLinks
  constructor
  · intro ran
    obtain ⟨supersedes,older,ran⟩ := except_bind_ok.mp ran
    obtain ⟨supersededBy,newer,ran⟩ := except_bind_ok.mp ran
    obtain ⟨entry,listed,ran⟩ := except_bind_ok.mp ran
    dsimp only at ran
    split at ran
    · cases ran
    · rename_i first
      obtain rfl := not_not.mp first
      split at ran
      · cases ran
      · rename_i second
        obtain rfl := not_not.mp second
        cases ran
        exact ⟨entry,subscript_ok.mp listed,resolveReference_ok.mp older,
          resolveReference_ok.mp newer,rfl⟩
  · rintro ⟨entry,listed,older,newer,rfl⟩
    refine except_bind_ok.mpr ⟨_,resolveReference_ok.mpr older,except_bind_ok.mpr
      ⟨_,resolveReference_ok.mpr newer,except_bind_ok.mpr ⟨entry,subscript_ok.mpr listed,?_⟩⟩⟩
    dsimp only
    rw [if_neg (not_not.mpr rfl),if_neg (not_not.mpr rfl)]
    rfl

theorem resolveSupersession_ok {resolved : List (String × SourceDocument)} :
    resolveSupersession sources pages manifestById = .ok resolved ↔
      (∀ source ∈ sources, Settled pages manifestById (lastCarrier sources) source) ∧
        resolved = sources.map (relinked manifestById) := by
  have step (source result : String × SourceDocument) :
      (do
        let page ← subscript pages source.1
        let links ← resolveLinks (versionToId sources) source.1 source.2 page manifestById
        pure (source.1,links) : Ingest (String × SourceDocument)) = .ok result ↔
      Settled pages manifestById (lastCarrier sources) source ∧ result = relinked manifestById source := by
    constructor
    · intro ran
      obtain ⟨page,read,ran⟩ := except_bind_ok.mp ran
      obtain ⟨links,made,ran⟩ := except_bind_ok.mp ran
      cases ran
      obtain ⟨entry,listed,older,newer,rfl⟩ := resolveLinks_ok.mp made
      refine ⟨⟨page,entry,subscript_ok.mp read,listed,older,newer⟩,?_⟩
      rw [relinked,listed]
    · rintro ⟨⟨page,entry,read,listed,older,newer⟩,rfl⟩
      refine except_bind_ok.mpr ⟨page,subscript_ok.mpr read,except_bind_ok.mpr
        ⟨_,resolveLinks_ok.mpr ⟨entry,listed,older,newer,rfl⟩,?_⟩⟩
      rw [relinked,listed]
      rfl
  exact mapM_map step

theorem settled_congr {earlier later : String → Option String}
    (same : ∀ page version target, Py.dictGet pages source.1 = some page →
      RefersTo (page.field "Supersedes") version ∨ RefersTo (page.field "Superseded by") version →
        earlier version = some target → later version = some target)
    (settled : Settled pages manifestById earlier source) : Settled pages manifestById later source := by
  obtain ⟨page,entry,read,listed,older,newer⟩ := settled
  refine ⟨page,entry,read,listed,?_,?_⟩
  · refine older.imp_right ?_
    rintro ⟨version,target,refers,held,named⟩
    exact ⟨version,target,refers,same page version target read (.inl refers) held,named⟩
  · refine newer.imp_right ?_
    rintro ⟨version,target,refers,held,named⟩
    exact ⟨version,target,refers,same page version target read (.inr refers) held,named⟩

omit [Formats] in
theorem carriers_perm (permuted : order.Perm sources) (version : String) :
    (carriers order version).Perm (carriers sources version) := permuted.filter _

omit [Formats] in
theorem lastCarrier_mem {target : String} (held : lastCarrier order version = some target)
    (permuted : order.Perm sources) : target ∈ (carriers sources version).map (·.1) := by
  obtain ⟨source,last,rfl⟩ := Option.map_eq_some_iff.mp held
  exact List.mem_map_of_mem ((carriers_perm permuted version).mem_iff.mp (List.mem_of_getLast? last))

omit [Formats] in
theorem lastCarrier_only {target : String} (once : (carriers sources version).length = 1)
    (carried : target ∈ (carriers sources version).map (·.1)) (permuted : order.Perm sources) :
    lastCarrier order version = some target ∧ (carriers sources version).map (·.1) = [target] := by
  obtain ⟨source,one⟩ := List.length_eq_one_iff.mp once
  have here := carriers_perm permuted version
  rw [one] at carried here
  rw [lastCarrier,List.perm_singleton.mp here,one]
  cases List.mem_singleton.mp carried
  exact ⟨rfl,rfl⟩

theorem resolved_fits {resolved : List (String × SourceDocument)} (permuted : order.Perm sources)
    (ran : resolveSupersession order pages manifestById = .ok resolved) :
    LinksFit sources pages manifestById :=
  ⟨lastCarrier order,fun _ _ held => lastCarrier_mem held permuted,
    fun source listed => (resolveSupersession_ok.mp ran).1 source (permuted.mem_iff.mpr listed)⟩

-- A source that is the chosen carrier of its version.
def chosen (carrier : String → Option String) (source : String × SourceDocument) : Bool :=
  (orText source.2.version none).bind carrier = some source.1

def chosenLast (carrier : String → Option String) (sources : List (String × SourceDocument)) :
    List (String × SourceDocument) :=
  sources.filter (fun source => !chosen carrier source) ++ sources.filter (chosen carrier)

omit [Formats] in
theorem chosenLast_perm (carrier : String → Option String) (sources : List (String × SourceDocument)) :
    (chosenLast carrier sources).Perm sources :=
  List.perm_append_comm.trans (List.filter_append_perm (chosen carrier) sources)

omit [Formats] in
theorem chosenLast_carrier {target : String}
    (carried : target ∈ (carriers sources version).map (·.1)) (choice : carrier version = some target) :
    lastCarrier (chosenLast carrier sources) version = some target := by
  have parts : carriers (chosenLast carrier sources) version =
      carriers (sources.filter fun source => !chosen carrier source) version ++
        carriers (sources.filter (chosen carrier)) version := List.filter_append ..
  obtain ⟨source,listed,rfl⟩ := List.mem_map.mp carried
  obtain ⟨member,version_⟩ := List.mem_filter.mp listed
  rw [decide_eq_true_eq] at version_
  have here : source ∈ carriers (sources.filter (chosen carrier)) version := by
    refine List.mem_filter.mpr ⟨List.mem_filter.mpr ⟨member,?_⟩,decide_eq_true version_⟩
    simp [chosen,version_,choice]
  have behind : carriers (sources.filter (chosen carrier)) version ≠ [] := List.ne_nil_of_mem here
  unfold lastCarrier
  rw [parts,List.getLast?_append_of_ne_nil _ behind]
  obtain ⟨last,found⟩ := List.getLast?_isSome.mpr behind |> Option.isSome_iff_exists.mp
  obtain ⟨inChosen,same⟩ := List.mem_filter.mp (List.mem_of_getLast? found)
  rw [decide_eq_true_eq] at same
  have picked := (List.mem_filter.mp inChosen).2
  simp only [chosen,same,Option.bind_some,choice,decide_eq_true_eq] at picked
  rw [found,Option.map_some,picked]

-- With the chosen carriers at the end, each is the last of its version.
theorem fitting_order (fits : LinksFit sources pages manifestById) :
    ∃ order resolved, order.Perm sources ∧
      resolveSupersession order pages manifestById = .ok resolved := by
  obtain ⟨carrier,carried,settled⟩ := fits
  have permuted := chosenLast_perm carrier sources
  refine ⟨chosenLast carrier sources,_,permuted,resolveSupersession_ok.mpr ⟨?_,rfl⟩⟩
  intro source listed
  refine settled_congr ?_ (settled source (permuted.mem_iff.mp listed))
  intro page version target _ _ choice
  exact chosenLast_carrier (carried version target choice) choice

theorem resolves_alike {resolved : List (String × SourceDocument)} (once : CarriedOnce sources pages)
    (one : order.Perm sources) (two : other.Perm sources)
    (ran : resolveSupersession order pages manifestById = .ok resolved) :
    ∃ again, resolveSupersession other pages manifestById = .ok again ∧ resolved.Perm again := by
  obtain ⟨settled,rfl⟩ := resolveSupersession_ok.mp ran
  refine ⟨_,resolveSupersession_ok.mpr ⟨?_,rfl⟩,(one.trans two.symm).map _⟩
  intro source listed
  have member : source ∈ sources := two.mem_iff.mp listed
  refine settled_congr ?_ (settled source (one.mem_iff.mpr member))
  intro page version target read refers held
  exact (lastCarrier_only (once source member page version read refers) (lastCarrier_mem held one) two).1

theorem linked_only {target : String} (linked : Linked (lastCarrier order) raw link)
    (permuted : order.Perm sources)
    (once : ∀ version, RefersTo raw version → (carriers sources version).length = 1)
    (named : link = some target) :
    ∃ version, RefersTo raw version ∧ (carriers sources version).map (·.1) = [target] := by
  rcases linked with ⟨_,none⟩ | ⟨version,held,refers,last,stated⟩
  · rw [none] at named
    cases named
  · cases stated.symm.trans named
    exact ⟨version,refers,(lastCarrier_only (once version refers) (lastCarrier_mem last permuted) permuted).2⟩

theorem linked_once (linked : Linked carrier raw link) (pointed : PointsToOnly sources raw link)
    (refers : RefersTo raw version) : (carriers sources version).length = 1 := by
  rcases linked with ⟨none,_⟩ | ⟨other,target,_,_,stated⟩
  · obtain ⟨text,some_,_⟩ := refers
    rw [none] at some_
    cases some_
  · obtain ⟨found,again,one⟩ := pointed target stated
    cases refersTo_same refers again
    rw [← List.length_map,one]
    rfl

omit [Formats] in
theorem relinked_links {entry : ManifestEntry} (listed : Py.dictGet manifestById source.1 = some entry) :
    relinked manifestById source = (source.1,{source.2 with
      supersedes := entry.supersedes, supersededBy := entry.supersededBy}) := by
  rw [relinked,listed]

-- The order does not matter when no version that is referred to is carried twice,
-- or when the manifest fits in no order.
theorem supersession_order_iff (sources : List (String × SourceDocument))
    (pages : List (String × ParsedPage)) (manifestById : List (String × ManifestEntry)) :
    OrderIndependent sources pages manifestById ↔
      (LinksFit sources pages manifestById → CarriedOnce sources pages) := by
  constructor
  · intro independent fits source member page version read refers
    obtain ⟨order,resolved,permuted,ran⟩ := fitting_order fits
    obtain ⟨settled,rfl⟩ := resolveSupersession_ok.mp ran
    have listed : source ∈ order := permuted.mem_iff.mpr member
    obtain ⟨firstPage,entry,first,entered,older,newer⟩ := settled source listed
    cases first.symm.trans read
    have pointed := independent.only order _ permuted ran _ (List.mem_map_of_mem listed)
    rw [relinked_links entered] at pointed
    obtain ⟨toOlder,toNewer⟩ := pointed page read
    rcases refers with back | forth
    · exact linked_once older toOlder back
    · exact linked_once newer toNewer forth
  · intro once
    refine ⟨?_,?_⟩
    · intro order other one two
      cases ran : resolveSupersession order pages manifestById with
      | ok resolved =>
          obtain ⟨again,same,permuted⟩ := resolves_alike (once (resolved_fits one ran)) one two ran
          exact .inl ⟨resolved,again,rfl,same,permuted⟩
      | error error =>
          cases later : resolveSupersession other pages manifestById with
          | error second => exact .inr ⟨error,second,rfl,rfl⟩
          | ok resolved =>
              obtain ⟨again,same,_⟩ := resolves_alike (once (resolved_fits two later)) two one later
              cases same.symm.trans ran
    · intro order resolved permuted ran source listed page read
      have carried := once (resolved_fits permuted ran)
      obtain ⟨settled,rfl⟩ := resolveSupersession_ok.mp ran
      obtain ⟨before,member,rfl⟩ := List.mem_map.mp listed
      obtain ⟨firstPage,entry,first,entered,older,newer⟩ := settled before member
      rw [relinked_links entered] at read ⊢
      cases first.symm.trans read
      have stands : before ∈ sources := permuted.mem_iff.mp member
      exact ⟨fun target named => linked_only older permuted
          (fun version refers => carried before stands page version read (.inl refers)) named,
        fun target named => linked_only newer permuted
          (fun version refers => carried before stands page version read (.inr refers)) named⟩

end Supersession

-- Two documents of version 2: the policy that is superseded and an SOP.
def versioned (sourceId version : String) : String × SourceDocument :=
  (sourceId,⟨sourceId,sourceId ++ ".pdf",.supportPolicy,.current,some version,0,none,none,none,
    ⟨.global,none⟩,.policyCurrent,"",0,""⟩)

def versionedPages : List (String × ParsedPage) :=
  [("SRC-01",⟨1,"Support Policy v3",[("Supersedes","Support Policy v2")],[]⟩),
    ("SRC-02",⟨1,"Support Policy v2",[],[]⟩),("SRC-03",⟨1,"Cancellation SOP v2",[],[]⟩)]

def versionedEntry (sourceId : String) (supersedes : Option String) : String × ManifestEntry :=
  (sourceId,⟨sourceId,sourceId ++ ".pdf",.supportPolicy,"CURRENT","2026-05-01",none,supersedes,none,.global,
    none,.policyCurrent,"",""⟩)

def versionedManifest : List (String × ManifestEntry) :=
  [versionedEntry "SRC-01" (some "SRC-02"),versionedEntry "SRC-02" none,versionedEntry "SRC-03" none]

theorem version_shared : let _ := asciiFormats [] []
    ¬ OrderIndependent [versioned "SRC-01" "v3",versioned "SRC-02" "v2",versioned "SRC-03" "v2"]
      versionedPages versionedManifest := by
  intro _ independent
  have last : ∃ error, resolveSupersession [versioned "SRC-01" "v3",versioned "SRC-02" "v2",
      versioned "SRC-03" "v2"] versionedPages versionedManifest = .error error :=
    ⟨drift "SRC-01" "supersedes" (some "SRC-02") (some "SRC-03"),by decide +kernel⟩
  have before : ∃ resolved, resolveSupersession [versioned "SRC-01" "v3",versioned "SRC-03" "v2",
      versioned "SRC-02" "v2"] versionedPages versionedManifest = .ok resolved :=
    returned_of_map (by decide +kernel)
  obtain ⟨error,failed⟩ := last
  obtain ⟨resolved,made⟩ := before
  rcases independent.same _ _ (.refl _) (List.Perm.cons _ (List.Perm.swap _ _ _)) with
    ⟨one,_,ran,_⟩ | ⟨_,two,_,ran⟩
  · cases failed.symm.trans ran
  · cases made.symm.trans ran

end ParcelPilot
