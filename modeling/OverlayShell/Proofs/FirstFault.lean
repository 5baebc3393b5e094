import OverlayShell.Configuration

/-!
# The first fault of a document

A document may have many faults, at any depth. Reading stops at the first of them. Some faults are
looked for, and the document is refused with a message that names them; others are not, and reading
breaks off where a list or a map is needed and something else stands there. So a document is loaded
or refused exactly if its first fault is one that is looked for.
-/

namespace OverlayShell

namespace Document

/-! ## 1. Outcomes -/

/-- The `Mismatch` is one that the readers look for and refuse with a message. -/
def Mismatch.IsRefusal : Mismatch → Prop
  | .topLevel _ | .treeNode _ => True
  | .notEntries | .notMap => False

instance : DecidablePred Mismatch.IsRefusal
  | .topLevel _ | .treeNode _ => .isTrue trivial
  | .notEntries | .notMap => .isFalse id

variable {α β : Type} {later : Option Mismatch}

/-- The `Mismatch` at which reading stopped, if it did. -/
def fault? : Except Mismatch α → Option Mismatch
  | .ok _ => none
  | .error m => some m

/-- A result is returned, or the document is refused (`IsRefusal`): nothing else escapes from the
reader. -/
def Answers (r : Except Mismatch α) : Prop := ∀ m ∈ fault? r, m.IsRefusal

instance (r : Except Mismatch α) : Decidable (Answers r) :=
  inferInstanceAs (Decidable (∀ m ∈ fault? r, m.IsRefusal))

theorem fault?_ok_bind (a : α) (next : α → Except Mismatch β) :
    fault? (.ok a >>= next) = fault? (next a) := rfl

theorem fault?_bind {r : Except Mismatch α} {next : α → Except Mismatch β}
    (h : ∀ a, fault? (next a) = later) : fault? (r >>= next) = (fault? r).or later := by
  cases r with
  | error m => rfl
  | ok a => exact h a

theorem fault?_map (f : α → β) (r : Except Mismatch α) : fault? (r.map f) = fault? r := by
  cases r <;> rfl

/-! ## 2. Faults in the order of reading -/

def mapFaults : Document → List Mismatch
  | .map _ => []
  | other => if other.isAbsent then [] else [.notMap]

mutual

/-- The faults that `ofDocument` can meet in a document of entries, at any depth and in the order in
which they are met. -/
def listFaults : Document → List Mismatch
  | .list nodes => nodesFaults nodes
  | .map _ | .text _ => []
  | other => if other.isAbsent then [] else [.notEntries]

def nodesFaults : List Document → List Mismatch
  | [] => []
  | node :: rest => nodeFaults node ++ nodesFaults rest

/-- The faults of a node: `ofNode` finds no entry in it, or what it lists inside has faults. -/
def nodeFaults : Document → List Mismatch
  | .text _ => []
  | .map fields =>
    if (field? "name" fields).isNone then [.treeNode (.map fields)] else childrenFaults fields
  | other => [.treeNode other]

/-- Of several fields `children` the first one counts, as in `field?`. -/
def childrenFaults : List (String × Document) → List Mismatch
  | [] => []
  | field :: rest => if field.1 = "children" then fieldFaults field else childrenFaults rest

def fieldFaults : String × Document → List Mismatch
  | (_, value) => listFaults value

end

def fields : Document → List (String × Document)
  | .map fields => fields
  | _ => []

def under (key : String) (data : Document) : Document := (field? key data.fields).getD .null

/-- The faults that `load` can meet: the document is no map, or what stands under `env`, `aliases`
or `tree` has faults. -/
def configurationFaults (file : String) (data : Document) : List Mismatch :=
  (mapFaults data).map (fun _ => .topLevel file) ++ mapFaults (data.under "env") ++
    mapFaults (data.under "aliases") ++ listFaults (data.under "tree")

/-! ## 3. Trees -/

open Entry

-- One theorem for each layer of a document, by the recursion that builds the tree.
mutual

/-- `ofDocument` stops at the first of `listFaults`. -/
theorem fault?_ofDocument : ∀ data, fault? (ofDocument data) = (listFaults data).head?
  | .list nodes => fault?_ofItems nodes
  | .map _ | .text _ => rfl
  | .null | .bool _ | .int _ | .float _ => by
    simp only [ofDocument, listFaults]
    split <;> rfl

theorem fault?_ofItems : ∀ nodes, fault? (ofItems nodes) = (nodesFaults nodes).head?
  | [] => rfl
  | node :: rest => by
    -- The rest is read only if the node has no fault, and its faults come behind those of the node.
    have hrest (entry : Entry) :
        fault? ((ofItems rest).map (entry :: ·)) = (nodesFaults rest).head? := by
      rw [fault?_map, fault?_ofItems rest]
    rw [ofItems, nodesFaults, List.head?_append, ← fault?_ofNode node]
    exact fault?_bind hrest

theorem fault?_ofNode : ∀ node, fault? (ofNode node) = (nodeFaults node).head?
  | .text _ => rfl
  | .map fields => by
    have hchildren := fault?_ofChildren fields
    rw [ofNode, nodeFaults]
    cases field? "name" fields with
    | none => rfl
    | some name =>
      cases h : ofChildren fields with
      | none =>
        rw [h] at hchildren
        dsimp only
        split <;> exact hchildren
      | some children =>
        rw [h] at hchildren
        exact (fault?_map _ children).trans hchildren
  | .null | .bool _ | .int _ | .float _ | .list _ => rfl

theorem fault?_ofChildren : ∀ fields : List (String × Document),
    (ofChildren fields).bind fault? = (childrenFaults fields).head?
  | [] => rfl
  | (key, value) :: rest => by
    have hvalue := fault?_ofDocument value
    have hrest := fault?_ofChildren rest
    rw [ofChildren, ofChildField, childrenFaults]
    by_cases hkey : key = "children"
    · rw [if_pos hkey, if_pos hkey, fieldFaults]
      exact hvalue
    · rw [if_neg hkey, if_neg hkey]
      exact hrest

end

/-! ## 4. Configurations and packs -/

open OverlayShell.Configuration

/-- `fieldsOf` succeeds iff `mapFaults` is empty, and fails with `notMap` otherwise. -/
theorem fieldsOf_cases (data : Document) :
    (mapFaults data = [] ∧ fieldsOf data = .ok data.fields) ∨
      (mapFaults data = [.notMap] ∧ fieldsOf data = .error .notMap) := by
  cases data with
  | map fields => exact .inl ⟨rfl, by cases fields <;> rfl⟩
  | _ =>
    simp only [mapFaults, fieldsOf]
    split
    · exact .inl ⟨rfl, rfl⟩
    · exact .inr ⟨rfl, rfl⟩

theorem fault?_fieldsOf (data : Document) : fault? (fieldsOf data) = (mapFaults data).head? := by
  obtain ⟨hfaults, hfields⟩ | ⟨hfaults, hfields⟩ := fieldsOf_cases data <;>
    rw [hfaults, hfields] <;> rfl

theorem fault?_textsUnder (key : String) (data : Document) :
    fault? (textsUnder key data.fields) = (mapFaults (data.under key)).head? :=
  (fault?_map _ (fieldsOf (data.under key))).trans (fault?_fieldsOf _)

theorem fault?_treeUnder (key : String) (data : Document) :
    fault? (treeUnder key data.fields) = (listFaults (data.under key)).head? := by
  unfold treeUnder under
  split
  · rename_i hnull
    rw [hnull]
    rfl
  · rw [fault?_map, fault?_ofDocument]

/-- `load` stops at the first of `configurationFaults`. -/
theorem fault?_load (around : Surroundings) (named : String) :
    fault? (load around named) =
      (configurationFaults (configFile around named)
        (documentIn around (configFile around named))).head? := by
  rw [load]
  generalize configFile around named = file
  generalize documentIn around file = data
  obtain ⟨hfaults, hfields⟩ | ⟨hfaults, hfields⟩ := fieldsOf_cases data
  -- The three keys are read in turn.
  · simp only [configurationFaults, hfaults, List.map_nil, List.nil_append, List.head?_append,
      Option.or_assoc, ← fault?_textsUnder, ← fault?_treeUnder]
    rw [hfields]
    refine (fault?_ok_bind data.fields _).trans ?_
    refine fault?_bind fun env => fault?_bind fun aliases => ?_
    exact fault?_map _ (treeUnder "tree" data.fields)
  · rw [configurationFaults, hfaults, hfields]
    rfl

/-- `loadPack` stops at the first of `mapFaults`. -/
theorem fault?_loadPack (around : Surroundings) (file : String) :
    fault? (loadPack around file) = (mapFaults (documentIn around file)).head? :=
  (fault?_map _ (fieldsOf (documentIn around file))).trans (fault?_fieldsOf _)

/-! ## 5. Refusals -/

def FirstIsRefusal (faults : List Mismatch) : Prop := ∀ m ∈ faults.head?, m.IsRefusal

theorem firstIsRefusal_mapFaults (data : Document) :
    FirstIsRefusal (mapFaults data) ↔ mapFaults data = [] := by
  obtain ⟨hfaults, -⟩ | ⟨hfaults, -⟩ := fieldsOf_cases data
  · rw [hfaults]
    exact iff_of_true (fun m hm => by cases hm) rfl
  · rw [hfaults]
    exact iff_of_false (fun h => h .notMap rfl) (by simp)

/-- **A document is loaded or refused exactly if its first fault is one that is looked for.** For
`ofDocument` that is the first of `listFaults`, for `load` the first of `configurationFaults`.
`loadPack` refuses nothing, so it `Answers` iff its document has no `mapFaults`. -/
theorem loading_answers_iff (data : Document) (around : Surroundings) (named file : String) :
    (Answers (ofDocument data) ↔ FirstIsRefusal (listFaults data)) ∧
      (Answers (load around named) ↔
        FirstIsRefusal (configurationFaults (configFile around named)
          (documentIn around (configFile around named)))) ∧
      (Answers (loadPack around file) ↔ mapFaults (documentIn around file) = []) := by
  refine ⟨?_, ?_, ?_⟩
  · rw [Answers, fault?_ofDocument, FirstIsRefusal]
  · rw [Answers, fault?_load, FirstIsRefusal]
  · rw [Answers, fault?_loadPack, ← firstIsRefusal_mapFaults, FirstIsRefusal]

/-- A number under `children`, a list under `env` and a list for a pack: `ofDocument`, `load` and
`loadPack` break off without a refusal. -/
theorem loading_breaks_off :
    ¬ Answers (ofDocument (.list [.map [("name", .text "d"), ("children", .int 5)]])) ∧
      ¬ Answers (load ⟨[("devterm.yaml", .map [("env", .list [.text "a"])])], none⟩ "") ∧
      ¬ Answers (loadPack ⟨[("commands.yaml", .list [.text "a"])], none⟩ packFile) := by
  decide +kernel

end Document

end OverlayShell
