import ReactiveForm.Binding.Report

/-!
# `ReactiveForm.Binding.Index` — the directives of a document, by input

The index lists the directives of a document by kind, and those of one kind in document order. For
every input it knows the places of the directives that concern it, and for every switch group its
members.

## Contents
- `Document.directive?`, the directive of a kind that an element carries.
- `Index`, with `build`, `dependents`, `isRegistered`, `inputNames`, `members` and `triggers`.
-/

namespace ReactiveForm

/-! ## The directives of an element -/

/-- The class that an element names for its switch, unless that is blank. -/
def Document.switchClass? (d : Document) (node : NodeId) : Option String :=
  ((d.attribute? node switchClassAttribute).map Text.trim).filter (!·.isEmpty)

/-- The directive of a kind that an element carries, if it has the attribute. -/
def Document.directive? (d : Document) (options : DirectiveOptions) (node : NodeId)
    (kind : DirectiveKind) : Option (Except DirectiveError Directive) :=
  (d.attribute? node kind.attributeName).map fun raw =>
    (Directive.parse options kind raw).map fun directive =>
      match directive with
      | .switch group _ => .switch group (d.switchClass? node)
      | other => other

/-! ## The index -/

/-- A directive and the node that carries it. -/
structure IndexedDirective where
  node : NodeId
  directive : Directive
  deriving DecidableEq, Repr

/-- The directives of a document. -/
structure Index where
  /-- By kind, and those of one kind in document order. -/
  entries : List IndexedDirective
  /-- For every input the places of the entries that concern it, ascending. -/
  places : StringMap (List Nat)
  /-- For every switch group its members in document order. -/
  groups : StringMap (List NodeId)
  /-- The attributes that are no directives. -/
  failures : List Failure
  deriving DecidableEq, Repr

namespace Index

/-- The index of nothing. -/
def empty : Index := ⟨[], .empty, .empty, []⟩

instance : Inhabited Index := ⟨empty⟩

/-- A map from keys to lists with one more item at a key. -/
def pushAt {α : Type} (m : StringMap (List α)) (key : String) (item : α) : StringMap (List α) :=
  m.insert key ((m.get? key).getD [] ++ [item])

/-- The index with one more directive at its end. -/
def insert (i : Index) (node : NodeId) (directive : Directive) : Index where
  entries := i.entries ++ [⟨node, directive⟩]
  places := directive.references.foldl (fun m name => pushAt m name i.entries.length) i.places
  groups :=
    match directive with
    | .switch group _ => pushAt i.groups group node
    | _ => i.groups
  failures := i.failures

/-- The index with what one attribute of a node says. -/
def read (d : Document) (options : DirectiveOptions) (i : Index) (kind : DirectiveKind)
    (node : NodeId) : Index :=
  match d.directive? options node kind with
  | none => i
  | some (.ok directive) => i.insert node directive
  | some (.error e) => { i with failures := i.failures ++ [⟨node, kind, .directive e⟩] }

/-- The kinds that are indexed. -/
def indexedKinds (switches : Bool) : List DirectiveKind :=
  DirectiveKind.all.filter fun kind => switches || kind != .switch

/-- The index of a document; switches can be left out. -/
def build (d : Document) (options : DirectiveOptions) (switches : Bool) : Index :=
  (indexedKinds switches).foldl
    (fun i kind => (d.withAttribute kind.attributeName).foldl (fun i node => i.read d options kind node) i)
    empty

/-! ## Queries -/

/-- The directives of a kind, in document order. -/
def ofKind (i : Index) (kind : DirectiveKind) : List IndexedDirective :=
  i.entries.filter (·.directive.kind == kind)

/-- The directives that an input concerns, in the order of the entries. -/
def dependents (i : Index) (name : String) : List IndexedDirective :=
  ((i.places.get? name).getD []).filterMap fun place => i.entries[place]?

/-- Whether an input concerns any directive. -/
def isRegistered (i : Index) (name : String) : Bool := i.places.contains name

/-- The inputs that concern any directive, in ascending order. -/
def inputNames (i : Index) : List String := i.places.keys

/-- The members of a switch group, in document order. -/
def members (i : Index) (group : String) : List NodeId := (i.groups.get? group).getD []

/-- The members of switch groups that are triggers in a document, in the order of their numbers. -/
def triggers (i : Index) (d : Document) : List NodeId :=
  ((i.groups.entries.flatMap (·.2)).filter fun node =>
      (d.attribute? node switchTriggerAttribute).isSome).mergeSort
    fun a b => a.index ≤ b.index

/-- Whether a document had no attributes of directives. -/
def isEmpty (i : Index) : Bool := i.entries.isEmpty && i.failures.isEmpty

end Index

end ReactiveForm
