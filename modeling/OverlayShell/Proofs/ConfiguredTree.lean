import OverlayShell.Proofs.Level
import OverlayShell.Tree.OfDocument

/-!
# Configured trees

A configured tree takes the names of its entries from its document as they are. They are distinct
among siblings, and every entry is found under the path at which the walk lists it, exactly if the
document lists distinct normal segments for each folder.
-/

namespace OverlayShell

namespace Entry

/-! ## 1. What the walk finds -/

/-- `P` holds of every name in the tree. -/
def EachName (P : String → Prop) (entries : List Entry) : Prop :=
  EachLevel (fun names => ∀ s ∈ names, P s) entries

theorem eachLevel_nil {P : List String → Prop} (hnil : P []) : EachLevel P [] := ⟨hnil, trivial⟩

theorem EachName.of_parts {P : String → Prop} {entry : Entry} {rest : List Entry}
    (hname : P entry.name) (hinside : EachName P entry.children) (hrest : EachName P rest) :
    EachName P (entry :: rest) := by
  refine ⟨fun s hs => ?_, ?_, hrest.2⟩
  · rcases List.mem_cons.1 hs with rfl | hs
    · exact hname
    · exact hrest.1 s hs
  · cases entry with
    | file f => trivial
    | folder name children isOpen => exact hinside

theorem eachName_of_walk {P : String → Prop} {entries : List Entry} (base : Path)
    (h : ∀ p found, (p, found) ∈ walkAll base entries → P found.name) : EachName P entries := by
  induction entries using forest_induction generalizing base with
  | nil => exact eachLevel_nil (by simp)
  | file f rest ih =>
    have hname := h _ _ (mem_walkAll_cons.2 (.inl ⟨rfl, rfl⟩))
    have hrest := ih base fun p found hmem => h p found (mem_walkAll_cons.2 (.inr (.inr hmem)))
    exact .of_parts hname (eachLevel_nil (by simp)) hrest
  | folder name inner isOpen rest ihc ihr =>
    have hname := h _ _ (mem_walkAll_cons.2 (.inl ⟨rfl, rfl⟩))
    have hinner := ihc _ fun p found hmem => h p found (mem_walkAll_cons.2 (.inr (.inl hmem)))
    have hrest := ihr base fun p found hmem => h p found (mem_walkAll_cons.2 (.inr (.inr hmem)))
    exact .of_parts hname hinner hrest

theorem EachInsideAll.and {P Q : List String → Prop} {entries : List Entry}
    (hP : EachInsideAll P entries) (hQ : EachInsideAll Q entries) :
    EachInsideAll (fun names => P names ∧ Q names) entries := by
  induction entries using forest_induction with
  | nil => trivial
  | file f rest ih => exact ⟨trivial, ih hP.2 hQ.2⟩
  | folder name children isOpen rest ihc ihr =>
    obtain ⟨⟨hPnames, hPchildren⟩, hPrest⟩ := hP
    obtain ⟨⟨hQnames, hQchildren⟩, hQrest⟩ := hQ
    exact ⟨⟨⟨hPnames, hQnames⟩, ihc hPchildren hQchildren⟩, ihr hPrest hQrest⟩

theorem tidy_of_eachName {entries : List Entry} (hdistinct : Distinct entries)
    (hnames : EachName Path.IsSegment entries) : Tidy entries :=
  ⟨⟨hdistinct.1, hnames.1⟩, hdistinct.2.and hnames.2⟩

theorem name_mem_way {way : List String} {entries : List Entry} {found : Entry}
    (h : find? way entries = some found) : found.name ∈ way := by
  induction way generalizing entries with
  | nil => cases h
  | cons s way ih =>
    cases way with
    | nil => simpa [eq_comm] using List.find?_some h
    | cons t way =>
      rw [find?_cons_cons] at h
      obtain ⟨first, -, hinside⟩ := Option.bind_eq_some_iff.1 h
      exact List.mem_cons_of_mem _ (ih hinside)

/-- What stands at a `Normal` path has a normal name. -/
theorem isSegment_of_lookup {tree : List Entry} {p : Path} {found : Entry} (hp : p.Normal)
    (h : lookup tree p = some found) : Path.IsSegment found.name := by
  by_cases hroot : p.segments = []
  -- The root is shown as a folder, which has a normal name as well.
  · rw [lookup, if_pos (by simp [Path.isRoot, hroot])] at h
    rw [← Option.some.inj h]
    exact (by decide : Path.IsSegment "root")
  · rw [lookup_eq_find? hroot] at h
    exact hp _ (name_mem_way h)

/-- **Tidy trees are those that can be addressed**: `lookup` finds every entry of the walk under its
path. -/
theorem tidy_iff_found {tree : List Entry} :
    Tidy tree ↔ Distinct tree ∧ ∀ p found, (p, found) ∈ walkAll .root tree →
      lookup tree (.parse p.absolute) = some found := by
  constructor
  · refine fun h => ⟨h.distinct, fun p found hmem => ?_⟩
    obtain ⟨way, hp, hfind⟩ := (mem_walkAll_iff h.distinct .root p found).1 hmem
    rw [← show p.segments = way from hp] at hfind
    have hne : p.segments ≠ [] := by
      intro hnil
      rw [hnil] at hfind
      cases hfind
    rw [Path.parse_absolute (h.normal_of_find? hfind), lookup_eq_find? hne, hfind]
  -- What is looked up is at a normal path, so everything that the walk lists has a normal name.
  · rintro ⟨hdistinct, hfound⟩
    refine tidy_of_eachName hdistinct (eachName_of_walk .root fun p found hmem => ?_)
    exact isSegment_of_lookup (Path.parse_normal _) (hfound p found hmem)

end Entry

namespace Document

/-! ## 2. Names in a document -/

def nodeName? : Document → Option String
  | .text name => some name
  | .map fields => (field? "name" fields).map asText
  | _ => none

def listedNames : Document → List String
  | .list nodes => nodes.filterMap nodeName?
  | .map fields => fields.map Prod.fst
  | .text names => names.toList.map String.singleton
  | _ => []

mutual

/-- `P` holds of the names that the document lists, and of those listed inside it. -/
def EachListing (P : List String → Prop) : Document → Prop
  | .list nodes => P (listedNames (.list nodes)) ∧ InsideNodes P nodes
  | other => P other.listedNames

def InsideNodes (P : List String → Prop) : List Document → Prop
  | [] => True
  | node :: rest => InsideNode P node ∧ InsideNodes P rest

def InsideNode (P : List String → Prop) : Document → Prop
  | .map fields => UnderChildren P fields
  | _ => True

def UnderChildren (P : List String → Prop) : List (String × Document) → Prop
  | [] => True
  | field :: rest => if field.1 = "children" then UnderField P field else UnderChildren P rest

def UnderField (P : List String → Prop) : String × Document → Prop
  | (_, value) => EachListing P value

end

mutual

/-- `EachListing P` can be checked where `P` can. -/
def decideEachListing (P : List String → Prop) [DecidablePred P] :
    (data : Document) → Decidable (data.EachListing P)
  | .list nodes => @instDecidableAnd _ _ _ (decideInsideNodes P nodes)
  | .map fields => inferInstanceAs (Decidable (P (listedNames (.map fields))))
  | .text names => inferInstanceAs (Decidable (P (listedNames (.text names))))
  | .null | .bool _ | .int _ | .float _ => inferInstanceAs (Decidable (P []))

def decideInsideNodes (P : List String → Prop) [DecidablePred P] :
    (nodes : List Document) → Decidable (InsideNodes P nodes)
  | [] => .isTrue trivial
  | node :: rest => @instDecidableAnd _ _ (decideInsideNode P node) (decideInsideNodes P rest)

def decideInsideNode (P : List String → Prop) [DecidablePred P] :
    (node : Document) → Decidable (InsideNode P node)
  | .map fields => decideUnderChildren P fields
  | .null | .bool _ | .int _ | .float _ | .text _ | .list _ => .isTrue trivial

def decideUnderChildren (P : List String → Prop) [DecidablePred P] :
    (fields : List (String × Document)) → Decidable (UnderChildren P fields)
  | [] => .isTrue trivial
  | field :: rest =>
    @instDecidableIte _ _ _ _ (decideUnderField P field) (decideUnderChildren P rest)

def decideUnderField (P : List String → Prop) [DecidablePred P] :
    (field : String × Document) → Decidable (UnderField P field)
  | (_, value) => decideEachListing P value

end

instance (P : List String → Prop) [DecidablePred P] (data : Document) :
    Decidable (data.EachListing P) := decideEachListing P data

end Document

namespace Entry

open Document

/-! ## 3. From the document to the tree -/

/-- `ofNode` takes a bare name, or a map that has a name, for an entry. -/
theorem ofNode_cases {node : Document} {entry : Entry} (h : ofNode node = .ok entry) :
    (∃ name, node = .text name ∧ entry = bareFile name) ∨
      ∃ fields name, node = .map fields ∧ field? "name" fields = some name ∧
        ((∃ entries, ofChildren fields = some (.ok entries) ∧
            entry = .folder name.asText entries (saysOpen fields)) ∨
          ofChildren fields = none ∧
            (entry = .folder name.asText [] (saysOpen fields) ∨
              entry = .file (fileOfFields name.asText fields))) := by
  cases node with
  | text name => exact .inl ⟨name, rfl, (Except.ok.inj h).symm⟩
  | map fields =>
    right
    rw [ofNode] at h
    cases hname : field? "name" fields with
    | none => simp [hname] at h
    | some name =>
      refine ⟨fields, name, rfl, hname, ?_⟩
      simp only [hname] at h
      -- Children that can not be read fail the node; without any it is a folder or a file by what
      -- else it says.
      cases hchildren : ofChildren fields with
      | none =>
        simp only [hchildren] at h
        refine .inr ⟨rfl, ?_⟩
        split at h
        · exact .inl (Except.ok.inj h).symm
        · exact .inr (Except.ok.inj h).symm
      | some children =>
        simp only [hchildren] at h
        cases children with
        | error mismatch => cases h
        | ok entries => exact .inl ⟨entries, rfl, (Except.ok.inj h).symm⟩
  | _ => cases h

theorem nodeName?_ofNode {node : Document} {entry : Entry} (h : ofNode node = .ok entry) :
    nodeName? node = some entry.name := by
  obtain ⟨name, rfl, rfl⟩ | ⟨fields, name, rfl, hname, hentry⟩ := ofNode_cases h
  · rfl
  · rw [nodeName?, hname]
    obtain ⟨entries, -, rfl⟩ | ⟨-, rfl | rfl⟩ := hentry <;> rfl

theorem ofItems_cons {node : Document} {rest : List Document} {entries : List Entry}
    (h : ofItems (node :: rest) = .ok entries) :
    ∃ entry others, ofNode node = .ok entry ∧ ofItems rest = .ok others ∧
      entries = entry :: others := by
  rw [ofItems] at h
  cases hnode : ofNode node with
  | error mismatch => rw [hnode] at h; cases h
  | ok entry =>
    cases hrest : ofItems rest with
    | error mismatch => rw [hnode, hrest] at h; cases h
    | ok others =>
      rw [hnode, hrest] at h
      exact ⟨entry, others, rfl, rfl, (Except.ok.inj h).symm⟩

theorem names_ofItems {nodes : List Document} {entries : List Entry}
    (h : ofItems nodes = .ok entries) : entries.map name = nodes.filterMap nodeName? := by
  induction nodes generalizing entries with
  | nil =>
    obtain rfl : [] = entries := Except.ok.inj h
    rfl
  | cons node rest ih =>
    obtain ⟨entry, others, hnode, hrest, rfl⟩ := ofItems_cons h
    rw [List.filterMap_cons_some (nodeName?_ofNode hnode), List.map_cons, ih hrest]

theorem underChildren_of_none {P : List String → Prop} {fields : List (String × Document)}
    (h : ofChildren fields = none) : UnderChildren P fields := by
  induction fields with
  | nil => trivial
  | cons field rest ih =>
    obtain ⟨key, value⟩ := field
    rw [ofChildren, ofChildField] at h
    rw [UnderChildren]
    by_cases hkey : key = "children"
    · simp [hkey] at h
    · rw [if_neg hkey]
      exact ih (by simpa [hkey] using h)

variable {P : List String → Prop}

theorem eachLevel_bareFiles {α : Type} (nameOf : α → String) (items : List α) :
    EachLevel P (items.map fun item => bareFile (nameOf item)) ↔ P (items.map nameOf) := by
  -- They are no folders, so there is nothing inside.
  have hinside : EachInsideAll P (items.map fun item => bareFile (nameOf item)) := by
    rw [eachInsideAll_iff]
    intro name children isOpen hmem
    obtain ⟨item, -, hitem⟩ := List.mem_map.1 hmem
    cases hitem
  rw [EachLevel, List.map_map, and_iff_left hinside]
  rfl

theorem eq_nil_of_ok {isAbsent : Bool} {mismatch : Mismatch} {tree : List Entry}
    (h : (if isAbsent then .ok [] else .error mismatch) = Except.ok tree) : tree = [] := by
  cases isAbsent with
  | false => cases h
  | true => exact (Except.ok.inj h).symm

-- One theorem for each layer of a document, by the recursion that builds the tree.
mutual

/-- **What is listed is what is built.** `P` holds at every level of a configured tree exactly if it
holds of all the names that the document lists for one folder, provided that it holds of `[]`. -/
theorem eachLevel_ofDocument (hnil : P []) : ∀ (data : Document) {tree : List Entry},
    ofDocument data = .ok tree → (EachLevel P tree ↔ data.EachListing P)
  | .list nodes, tree, h => by
    rw [ofDocument] at h
    rw [EachLevel, names_ofItems h, eachInsideAll_ofItems hnil nodes h, EachListing, listedNames]
  | .map fields, tree, h => by
    rw [← Except.ok.inj h, eachLevel_bareFiles]
    rfl
  | .text names, tree, h => by
    rw [← Except.ok.inj h, eachLevel_bareFiles]
    rfl
  | .null, tree, h | .bool _, tree, h | .int _, tree, h | .float _, tree, h => by
    simp only [ofDocument] at h
    obtain rfl := eq_nil_of_ok h
    exact ⟨fun hP => hP.1, eachLevel_nil⟩

theorem eachInsideAll_ofItems (hnil : P []) : ∀ (nodes : List Document) {entries : List Entry},
    ofItems nodes = .ok entries → (EachInsideAll P entries ↔ InsideNodes P nodes)
  | [], entries, h => by
    obtain rfl : [] = entries := Except.ok.inj h
    rfl
  | node :: rest, entries, h => by
    obtain ⟨entry, others, hnode, hrest, rfl⟩ := ofItems_cons h
    rw [EachInsideAll, InsideNodes, eachInside_ofNode hnil node hnode,
      eachInsideAll_ofItems hnil rest hrest]

theorem eachInside_ofNode (hnil : P []) : ∀ (node : Document) {entry : Entry},
    ofNode node = .ok entry → (entry.EachInside P ↔ InsideNode P node)
  | .map fields, entry, h => by
    obtain ⟨name, hnode, -⟩ | ⟨fields', name, hnode, -, hentry⟩ := ofNode_cases h
    · cases hnode
    obtain rfl : fields = fields' := Document.map.inj hnode
    rw [InsideNode]
    obtain ⟨entries, hchildren, rfl⟩ | ⟨hnone, rfl | rfl⟩ := hentry
    · exact eachLevel_ofChildren hnil fields hchildren
    -- An entry without the key has nothing inside, and the empty list of names satisfies `P`.
    · exact iff_of_true (eachLevel_nil hnil) (underChildren_of_none hnone)
    · exact iff_of_true trivial (underChildren_of_none hnone)
  | .text name, entry, h => by
    obtain rfl : bareFile name = entry := Except.ok.inj h
    rfl
  | .null, entry, h | .bool _, entry, h | .int _, entry, h | .float _, entry, h
  | .list _, entry, h => by cases h

theorem eachLevel_ofChildren (hnil : P []) : ∀ (fields : List (String × Document))
    {entries : List Entry}, ofChildren fields = some (.ok entries) →
      (EachLevel P entries ↔ UnderChildren P fields)
  | [], entries, h => by cases h
  | (key, value) :: rest, entries, h => by
    rw [ofChildren, ofChildField] at h
    rw [UnderChildren]
    by_cases hkey : key = "children"
    · simp only [hkey, if_true] at h ⊢
      exact eachLevel_ofDocument hnil value (Option.some.inj h)
    · simp only [hkey, if_false] at h ⊢
      exact eachLevel_ofChildren hnil rest h

end

/-! ## 4. The tree of a configuration -/

/-- **A configured tree is as tidy as its document.** In a tree that `ofDocument` builds the sibling
names are distinct and `lookup` finds every entry of the walk under its path exactly if the names
that the document lists for each folder are distinct normal segments. -/
theorem configured_tree_iff {data : Document} {tree : List Entry} (h : ofDocument data = .ok tree) :
    (Distinct tree ∧ ∀ p found, (p, found) ∈ walkAll .root tree →
        lookup tree (.parse p.absolute) = some found) ↔
      data.EachListing fun names => names.Nodup ∧ ∀ s ∈ names, Path.IsSegment s := by
  rw [← tidy_iff_found, Tidy]
  exact eachLevel_ofDocument (by simp) data h

theorem configured_tree_nested :
    let data : Document := .list [.text "a.md", .map [("name", .text "a"),
      ("children", .list [.text "a.md", .map [("name", .int 5), ("children", .text "xy")]])]]
    let tree : List Entry := [bareFile "a.md", .folder "a" [bareFile "a.md",
      .folder "5" [bareFile "x", bareFile "y"] false] false]
    ofDocument data = .ok tree ∧ Distinct tree ∧ ∀ p found, (p, found) ∈ walkAll .root tree →
      lookup tree (.parse p.absolute) = some found := by
  intro data tree
  have hbuilt : ofDocument data = .ok tree := rfl
  exact ⟨hbuilt, (configured_tree_iff hbuilt).2 (by decide)⟩

/-- `ofDocument` does not look at the names: an entry whose name holds a slash is not found under
its path, and siblings may have one name. -/
theorem slashed_name_not_found :
    (∃ data tree p found, ofDocument data = .ok tree ∧ (p, found) ∈ walkAll .root tree ∧
        lookup tree (.parse p.absolute) = none) ∧
      ∃ data tree, ofDocument data = .ok tree ∧ ¬ Distinct tree := by
  constructor
  · let found : Entry := .file ⟨"a/b", fileKind "a/b", "x", false⟩
    refine ⟨.list [.map [("name", .text "a/b"), ("content", .text "x")]], [found], ⟨["a/b"]⟩,
      found, rfl, ?_, by decide⟩
    exact mem_walkAll_cons.2 (.inl ⟨rfl, rfl⟩)
  · exact ⟨.list [.text "a", .text "a"], [bareFile "a", bareFile "a"], rfl, by decide⟩

end Entry

end OverlayShell
