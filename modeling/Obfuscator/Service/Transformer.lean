import Obfuscator.Pipeline
import Obfuscator.Failure
/-!
# The transformer

The transformer serves a request locally or through the rewriting service. A credential that is
absent or blank selects the local pipeline; any other credential, untrimmed, is sent to the
service. A request may also insist on the service (and fail without a credential) or on the
local pipeline. The service's reply is stripped of code fences, and a reply left empty is a
failure. Each completed transformation, and each failed call to the service, is counted when the
transformer keeps metrics.

## Metrics

Four counters describe the work done: completed transformations by strategy, literals recoded,
literals that could not be encoded, and failed calls to the rewriting service. They are shown in
the Prometheus text format: one family per counter, sorted by name, each with its help and type
lines; the family counted by strategy lists its strategies in order and is left out until it has
one.
-/

namespace Obfuscator

theorem Metrics.sorted_nil : (([] : List (String × Nat)).map Prod.fst).Pairwise (· < ·) :=
  List.Pairwise.nil

/-- The counters. The labels of the transformations counter stand in strictly increasing
order, so each stands once. -/
structure Metrics where
  transformations : List (String × Nat) := []
  literalsRecoded : Nat := 0
  encodingFailures : Nat := 0
  delegatedFailures : Nat := 0
  sorted : (transformations.map Prod.fst).Pairwise (· < ·) := by exact Metrics.sorted_nil
  deriving DecidableEq, Repr

namespace Metrics

def bump (label : String) : List (String × Nat) → List (String × Nat)
  | [] => [(label, 1)]
  | (l, n) :: rest =>
    if l = label then (l, n + 1) :: rest
    else if label < l then (label, 1) :: (l, n) :: rest
    else (l, n) :: bump label rest

theorem mem_bump_keys {label k : String} :
    ∀ {ts : List (String × Nat)}, k ∈ (bump label ts).map Prod.fst → k = label ∨ k ∈ ts.map Prod.fst
  | [], h => by simpa [bump] using h
  | (l, n) :: rest, h => by
      simp only [bump] at h
      split at h
      · simpa using Or.inr h
      · split at h
        · simpa using h
        · simp only [List.map_cons, List.mem_cons] at h
          rcases h with rfl | h
          · simp
          · rcases mem_bump_keys h with rfl | h
            · exact Or.inl rfl
            · simp [h]

theorem pairwise_bump (label : String) :
    ∀ {ts : List (String × Nat)}, (ts.map Prod.fst).Pairwise (· < ·) →
      ((bump label ts).map Prod.fst).Pairwise (· < ·)
  | [], _ => by simp [bump]
  | (l, n) :: rest, h => by
      rw [List.map_cons, List.pairwise_cons] at h
      obtain ⟨hl, hrest⟩ := h
      simp only [bump]
      split
      · simp only [List.map_cons, List.pairwise_cons]
        exact ⟨hl, hrest⟩
      · split
        · rename_i _ hlt
          simp only [List.map_cons, List.pairwise_cons, List.mem_cons]
          refine ⟨?_, hl, hrest⟩
          rintro k (rfl | hk)
          · exact hlt
          · exact String.lt_trans hlt (hl k hk)
        · rename_i hne hnlt
          -- the label goes after `l`, which is below it
          have hlt : l < label := Std.lt_of_le_of_ne (String.not_lt.mp hnlt) hne
          simp only [List.map_cons, List.pairwise_cons]
          refine ⟨fun k hk => ?_, pairwise_bump label hrest⟩
          rcases mem_bump_keys hk with rfl | hk
          · exact hlt
          · exact hl k hk

def recordSuccess (m : Metrics) (strategy : Strategy) (report : Option Report) : Metrics :=
  let m := { m with transformations := bump strategy.name m.transformations,
                    sorted := pairwise_bump strategy.name m.sorted }
  match report with
  | some r => { m with literalsRecoded := m.literalsRecoded + r.literalsRecoded,
                       encodingFailures := m.encodingFailures + r.literalsFailed }
  | none => m

def recordDelegatedFailure (m : Metrics) : Metrics :=
  { m with delegatedFailures := m.delegatedFailures + 1 }

def familyHead (name help : String) : String :=
  s!"# HELP {name} {help}\n# TYPE {name} counter\n"

def single (name help : String) (value : Nat) : String :=
  familyHead name help ++ s!"{name} {value}\n"

/-- The counters in the Prometheus text format. -/
def render (m : Metrics) : String :=
  let name := "codeshield_transformations_total"
  single "codeshield_delegated_failures_total" "Failed calls to the rewriting service"
      m.delegatedFailures ++
    single "codeshield_encoding_failures_total"
      "String literals left as-is because they could not be encoded" m.encodingFailures ++
    single "codeshield_literals_recoded_total" "String literals replaced by decode expressions"
      m.literalsRecoded ++
    (if m.transformations.isEmpty then ""
     else familyHead name "Completed transformations" ++
       String.join (m.transformations.map fun (l, n) =>
         name ++ "\x7bstrategy=\"" ++ l ++ "\"\x7d " ++ toString n ++ "\n"))

end Metrics

/-- Where counters are registered: registering a second set beside the first is refused. -/
structure Registry where
  registered : Bool := false
  deriving DecidableEq, Repr

namespace Registry

def duplicateMessage : String := "Duplicate metrics collector registration attempted"

def register (r : Registry) : Except String (Metrics × Registry) :=
  if r.registered then .error duplicateMessage else .ok ({}, { registered := true })

end Registry

/-! ## Serving requests -/

/-- How a credential selects the way a request is served. -/
inductive Mode where
  | noCredential
  | credentialPresent (credential : String)
  deriving DecidableEq, Repr

/-- The mode for a credential: present unless absent or blank. -/
def Mode.select : Option String → Mode
  | some c => if Text.isBlankText c.toList then .noCredential else .credentialPresent c
  | none => .noCredential

/-- Which ways a request may be served. -/
inductive Route where
  | byCredential
  | serviceOnly
  | localOnly
  deriving DecidableEq, Repr

/-- A transformer: the seed of its local pipeline and its counters, if it keeps them. -/
structure Transformer where
  seed : UInt64 := 0
  metrics : Option Metrics := none
  deriving DecidableEq, Repr

/-- What serving one request produced: its result, the requests sent to the service, and the
transformer after it. -/
structure Exchange where
  result : Except Failure Outcome
  calls : List DelegateRequest
  transformer : Transformer

namespace Transformer

def count (t : Transformer) (f : Metrics → Metrics) : Transformer :=
  { t with metrics := t.metrics.map f }

def serveLocally (t : Transformer) (code : String) (settings : Settings) : Option Exchange :=
  (Pipeline.run t.seed settings code).map fun (o, _) =>
    { result := .ok o, calls := [], transformer := t.count (·.recordSuccess o.strategy o.report) }

/-- Serves a request through the service with a credential. -/
def serveRemotely (t : Transformer) (service : RewritingService) (code : String)
    (settings : Settings) (credential : String) : Exchange :=
  let request : DelegateRequest := { code, settings, credential }
  let reply := (service request).bind fun raw =>
    let body := Delegate.stripCodeFences raw
    if body.isEmpty then .error .emptyResponse else .ok body
  match reply with
  | .ok body =>
    let o := Outcome.ofDelegated settings.language body
    { result := .ok o, calls := [request], transformer := t.count (·.recordSuccess o.strategy none) }
  | .error e =>
    { result := .error (.delegated e), calls := [request], transformer := t.count (·.recordDelegatedFailure) }

/-- Serves a request along a route. -/
def serve (t : Transformer) (service : RewritingService) (route : Route) (code : String)
    (settings : Settings) (credential : Option String) : Option Exchange :=
  match route, Mode.select credential with
  | .localOnly, _ => t.serveLocally code settings
  | .byCredential, .noCredential => t.serveLocally code settings
  | .serviceOnly, .noCredential => some { result := .error .missingCredential, calls := [], transformer := t }
  | _, .credentialPresent c => some (t.serveRemotely service code settings c)

end Transformer
end Obfuscator
