import LintHub.Config.Basic
import LintHub.Failure

set_option autoImplicit false

/-!
# The registered analyzers

A registry keeps analyzers in the order of their registration, under ids that never repeat. Main
statements: registering fails exactly on an id in use (`register_eq_error_iff`), and no operation
makes an id repeat (`nodup_ids_register`, `nodup_ids_unregister`).
-/

namespace LintHub

/-- How an analyzer is run: as a configured command, or by the host, which knows it by a handle. -/
inductive AnalyzerSource where
  | command (c : CommandConfig) (baseDir : Option Path)
  | host (handle : Nat)
  deriving DecidableEq, Repr

/-- An analyzer with what it declares about itself. -/
structure Analyzer where
  spec : AnalyzerSpec
  source : AnalyzerSource
  deriving DecidableEq, Repr

/-- The id of an analyzer. -/
def Analyzer.id (a : Analyzer) : AnalyzerId := a.spec.id

/-- The analyzer of a configured command. -/
def Analyzer.ofCommand (c : CommandConfig) (baseDir : Option Path) : Analyzer :=
  ⟨c.spec, .command c baseDir⟩

/-- The registered analyzers, in the order of their registration. -/
structure Registry where
  analyzers : List Analyzer
  deriving DecidableEq, Repr

namespace Registry

/-- No analyzers. -/
def empty : Registry := ⟨[]⟩

instance : Inhabited Registry := ⟨empty⟩

/-- The ids in use. -/
def ids (r : Registry) : List AnalyzerId := r.analyzers.map Analyzer.id

/-- The analyzer of an id. -/
def get? (id : AnalyzerId) (r : Registry) : Option Analyzer :=
  r.analyzers.find? (·.id == id)

/-- Adds an analyzer behind the others. -/
def register (a : Analyzer) (r : Registry) : Except HubError Registry :=
  if r.ids.contains a.id then .error (.duplicateAnalyzer a.id.text)
  else .ok ⟨r.analyzers ++ [a]⟩

/-- Takes the analyzer of an id out. -/
def unregister (id : AnalyzerId) (r : Registry) : Except HubError (Analyzer × Registry) :=
  match r.get? id with
  | none => .error (.unknownAnalyzer id.text)
  | some a => .ok (a, ⟨r.analyzers.eraseP (·.id == id)⟩)

/-- The analyzers that take part in a run. -/
def applicable (trigger : Trigger) (scopes : ScopeSet) (r : Registry) : List Analyzer :=
  r.analyzers.filter (·.spec.applies trigger scopes)

/-- The number of analyzers. -/
def size (r : Registry) : Nat := r.analyzers.length

/-- Registering fails exactly on an id that is in use. -/
theorem register_eq_error_iff {a : Analyzer} {r : Registry} {e : HubError} :
    r.register a = .error e ↔ a.id ∈ r.ids ∧ e = .duplicateAnalyzer a.id.text := by
  unfold register
  by_cases h : a.id ∈ r.ids
  · simp [h, eq_comm]
  · simp [h]

/-- What is registered comes last. -/
theorem ids_register {a : Analyzer} {r r' : Registry} (h : r.register a = .ok r') :
    r'.ids = r.ids ++ [a.id] := by
  unfold register at h
  split at h
  · cases h
  · cases h
    simp [ids]

/-- Registering makes no id repeat. -/
theorem nodup_ids_register {a : Analyzer} {r r' : Registry} (h : r.register a = .ok r')
    (d : r.ids.Nodup) : r'.ids.Nodup := by
  have fresh : a.id ∉ r.ids := fun hm => by
    simp [register, hm] at h
  rw [ids_register h]
  exact List.nodup_append.mpr ⟨d, by simp, fun x hx y hy => by
    simp only [List.mem_singleton] at hy
    exact fun e => fresh (hy ▸ e ▸ hx)⟩

/-- Removing makes no id repeat. -/
theorem nodup_ids_unregister {id : AnalyzerId} {a : Analyzer} {r r' : Registry}
    (h : r.unregister id = .ok (a, r')) (d : r.ids.Nodup) : r'.ids.Nodup := by
  unfold unregister at h
  split at h
  · cases h
  · cases h
    exact d.sublist (List.Sublist.map _ List.eraseP_sublist)

/-- Removing takes out the first analyzer of the id and keeps the order of the others. -/
theorem ids_unregister {id : AnalyzerId} {a : Analyzer} {r r' : Registry}
    (h : r.unregister id = .ok (a, r')) : r'.ids = r.ids.erase id := by
  unfold unregister at h
  split at h
  · cases h
  · cases h
    unfold ids
    rw [List.erase_eq_eraseP', List.eraseP_map]
    rfl

/-- What cannot be removed is not registered. -/
theorem not_mem_ids_of_unregister_eq_error {id : AnalyzerId} {r : Registry} {e : HubError}
    (h : r.unregister id = .error e) : id ∉ r.ids := by
  unfold unregister at h
  split at h
  case h_1 none =>
    intro hid
    obtain ⟨a, ha, same⟩ := List.mem_map.1 hid
    have := List.find?_eq_none.1 none a ha
    exact this (beq_iff_eq.2 same)
  · cases h

end Registry

end LintHub
