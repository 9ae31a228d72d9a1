/-!
# The components of a local deployment

A deployment has three managed processes: the search engine, the connector runtime and the main
runtime. They are started in this order, and their order of declaration is their sort order.
-/

namespace Launchpad

/-- A managed process of the deployment, by the part it plays. -/
inductive Component where
  | searchEngine
  | connectorRuntime
  | mainRuntime
  deriving DecidableEq, Repr, Inhabited

namespace Component

/-- All components in the order they are started. -/
def launchOrder : List Component := [.searchEngine, .connectorRuntime, .mainRuntime]

/-- The place of a component in the launch order. -/
def rank : Component → Nat
  | .searchEngine => 0
  | .connectorRuntime => 1
  | .mainRuntime => 2

/-- The product name that messages show. -/
def displayName : Component → String
  | .searchEngine => "elasticsearch"
  | .connectorRuntime => "connectors"
  | .mainRuntime => "camunda"

/-- The name that stands for the component in configuration and status documents. -/
def key : Component → String
  | .searchEngine => "search-engine"
  | .connectorRuntime => "connector-runtime"
  | .mainRuntime => "main-runtime"

def ofKey? (k : String) : Option Component := launchOrder.find? fun c => c.key == k

theorem mem_launchOrder (c : Component) : c ∈ launchOrder := by cases c <;> simp [launchOrder]

theorem key_injective {c d : Component} (h : c.key = d.key) : c = d := by
  cases c <;> cases d <;> first | rfl | (exact absurd h (by decide))

end Component

/-! ## One value for each component -/

/-- A value for every component. -/
structure PerComponent (α : Type) where
  searchEngine : α
  connectorRuntime : α
  mainRuntime : α
  deriving Repr, DecidableEq, Inhabited

namespace PerComponent

variable {α β : Type}

def const (a : α) : PerComponent α := ⟨a, a, a⟩

def ofFun (f : Component → α) : PerComponent α :=
  ⟨f .searchEngine, f .connectorRuntime, f .mainRuntime⟩

def get (p : PerComponent α) : Component → α
  | .searchEngine => p.searchEngine
  | .connectorRuntime => p.connectorRuntime
  | .mainRuntime => p.mainRuntime

def set (p : PerComponent α) (c : Component) (a : α) : PerComponent α :=
  match c with
  | .searchEngine => { p with searchEngine := a }
  | .connectorRuntime => { p with connectorRuntime := a }
  | .mainRuntime => { p with mainRuntime := a }

def modify (p : PerComponent α) (c : Component) (f : α → α) : PerComponent α :=
  p.set c (f (p.get c))

def map (f : Component → α → β) (p : PerComponent α) : PerComponent β :=
  ofFun fun c => f c (p.get c)

def toList (p : PerComponent α) : List α := Component.launchOrder.map p.get

@[simp] theorem get_const (a : α) (c : Component) : (const a).get c = a := by cases c <;> rfl

@[simp] theorem get_ofFun (f : Component → α) (c : Component) : (ofFun f).get c = f c := by
  cases c <;> rfl

@[simp] theorem get_set_self (p : PerComponent α) (c : Component) (a : α) :
    (p.set c a).get c = a := by
  cases c <;> rfl

@[simp] theorem get_set_of_ne (p : PerComponent α) {c d : Component} (a : α) (h : d ≠ c) :
    (p.set c a).get d = p.get d := by
  cases c <;> cases d <;> first | rfl | exact absurd rfl h

theorem get_set (p : PerComponent α) (c d : Component) (a : α) :
    (p.set c a).get d = if d = c then a else p.get d := by
  by_cases h : d = c
  · subst h; simp
  · simp [h]

@[simp] theorem get_map (f : Component → α → β) (p : PerComponent α) (c : Component) :
    (p.map f).get c = f c (p.get c) := by
  simp [map]

theorem ext_get {p q : PerComponent α} (h : ∀ c, p.get c = q.get c) : p = q := by
  have h₁ := h .searchEngine
  have h₂ := h .connectorRuntime
  have h₃ := h .mainRuntime
  cases p; cases q
  simp_all [get]

end PerComponent

end Launchpad
