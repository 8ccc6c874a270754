import Mathlib.Logic.Function.Basic
import Mathlib.Tactic.Common

namespace P3Portal.Foundation
variable {Site State Response : Type}

/-- Two worlds agree when they differ at hidden sites only. -/
def AgreeExcept (hidden : Site → Prop) (first second : Site → State) : Prop :=
  ∀ site, ¬ hidden site → first site = second site

/-- A response is blind when two agreeing worlds get the same one. -/
def Blind (hidden : Site → Prop) (respond : (Site → State) → Response) : Prop :=
  ∀ first second, AgreeExcept hidden first second → respond first = respond second

variable {hidden : Site → Prop}

/-- A response that asks no site is blind. -/
theorem Blind.const (response : Response) : Blind hidden fun _ : Site → State => response := by
  intro first second agree
  rfl

/-- A response that asks a visible site alone is blind. -/
theorem Blind.read {site : Site} (visible : ¬ hidden site) (view : State → Response) :
    Blind hidden fun world => view (world site) := by
  intro first second agree
  show view (first site) = view (second site)
  rw [agree site visible]

/-- A response that asks a hidden site is blind exactly when its view is the same in every state. -/
theorem blind_read_iff {site : Site} (secret : hidden site) (view : State → Response) :
    Blind hidden (fun world => view (world site)) ↔ ∀ first second, view first = view second := by
  constructor
  · intro blind first second
    classical
    have agree : AgreeExcept hidden (fun _ => first) (Function.update (fun _ => first) site second) := by
      intro other visible
      have different : other ≠ site := fun equal => visible (equal ▸ secret)
      rw [Function.update_of_ne different]
    simpa only [Function.update_self] using blind _ _ agree
  · intro constant first second agree
    exact constant (first site) (second site)

/-- An answer that is refused or reads the one opened site is blind exactly when it opens no hidden
site whose view tells two states apart. -/
theorem blind_opened_iff {Error : Type} (opened : Except Error Site)
    (view : Site → State → Except Error Response) :
    Blind hidden (fun world : Site → State => opened >>= fun site => view site (world site)) ↔
      ∀ site, opened = .ok site → hidden site → ∀ first second, view site first = view site second := by
  cases opened with
  | error error =>
      refine iff_of_true (Blind.const (Except.error error)) ?_
      intro site impossible
      cases impossible
  | ok site =>
      by_cases secret : hidden site
      · refine (blind_read_iff secret (view site)).trans ?_
        constructor
        · intro constant other same _
          rw [← Except.ok.inj same]
          exact constant
        · intro constant
          exact constant site rfl secret
      · refine iff_of_true (Blind.read secret (view site)) ?_
        intro other same hiddenOther
        exact absurd (Except.ok.inj same ▸ hiddenOther) secret

end P3Portal.Foundation
