import Mathlib
import Obfuscator.Service.Transformer
/-!
# Serving requests: modes kept apart, counters kept exact

A transformer serves each request either locally or through the rewriting service, never both.
The service is asked exactly when the request does not insist on the local pipeline and its
credential has a character that is not blank, and it is asked with that credential as given. A
request served locally returns the local pipeline's outcome; one that insists on the service
without such a credential is refused; one that reached the service returns the service's reply
without its fences, or the service's failure, and never a local outcome (`Served`).

Over a whole session of requests the counters stay exact: each label of the transformations
counter grows by the outcomes of the strategy of that name, the literal counters by the reports
of the local runs, and the failure counter by the calls to the service that failed (`Counted`).
What one request does is said once, by a normal form of `Transformer.serve` and by
`Metrics.record`; the session follows by induction on its requests.
-/

namespace Obfuscator

/-- One request to a transformer: the route it asks for, the code, its settings and the
credential given with it. -/
structure Request where
  route : Route
  code : String
  settings : Settings
  credential : Option String

namespace Request

/-- What the request asks of the rewriting service: nothing when it insists on the local
pipeline, or when its credential is absent or holds only blanks; otherwise its code and
settings, with the credential as given. -/
def sent (r : Request) : Option DelegateRequest :=
  match r.route, r.credential with
  | .localOnly, _ => none
  | _, none => none
  | _, some k =>
    if k.toList.any (fun c => !Text.isBlank c) then
      some { code := r.code, settings := r.settings, credential := k }
    else none

/-- The request is served by the local pipeline: it asks nothing of the service and does not
insist on it. -/
def IsLocal (r : Request) : Prop := r.sent = none ∧ r.route ≠ .serviceOnly

end Request

/-- How a request is served, with local runs drawing from `seed`: what it returns and what it
asks of the service. -/
inductive Served (service : RewritingService) (seed : UInt64) (r : Request) :
    Except Failure Outcome → List DelegateRequest → Prop
  /-- Locally: the local pipeline's outcome, and nothing asked of the service. -/
  | onMachine {o : Outcome} {names : RenameMap} : r.IsLocal →
      Pipeline.run seed r.settings r.code = some (o, names) → Served service seed r (.ok o) []
  /-- Refused: the request insists on the service and has no credential for it. -/
  | refused : r.sent = none → r.route = .serviceOnly →
      Served service seed r (.error .missingCredential) []
  /-- Through the service, asked once: its reply without fences, when something is left. -/
  | delegated {q : DelegateRequest} {raw : String} : r.sent = some q → service q = .ok raw →
      (Delegate.stripCodeFences raw).isEmpty = false →
      Served service seed r
        (.ok (Outcome.ofDelegated r.settings.language (Delegate.stripCodeFences raw))) [q]
  /-- Through the service, asked once: a reply with nothing left without its fences. -/
  | emptyReply {q : DelegateRequest} {raw : String} : r.sent = some q → service q = .ok raw →
      (Delegate.stripCodeFences raw).isEmpty = true →
      Served service seed r (.error (.delegated .emptyResponse)) [q]
  /-- Through the service, asked once: the service's own failure. -/
  | failed {q : DelegateRequest} {e : DelegateError} : r.sent = some q → service q = .error e →
      Served service seed r (.error (.delegated e)) [q]

namespace Served

variable {service : RewritingService} {seed : UInt64} {r : Request}
  {result : Except Failure Outcome} {calls : List DelegateRequest}

theorem calls_eq (h : Served service seed r result calls) : calls = r.sent.toList := by
  cases h with
  | onMachine hlocal _ => rw [hlocal.1]; rfl
  | refused hsent _ => rw [hsent]; rfl
  | delegated hsent _ _ => rw [hsent]; rfl
  | emptyReply hsent _ _ => rw [hsent]; rfl
  | failed hsent _ => rw [hsent]; rfl

end Served

/-! ## One request -/

theorem Mode.select_some (k : String) :
    Mode.select (some k) =
      if k.toList.any (fun c => !Text.isBlank c) then .credentialPresent k else .noCredential := by
  rw [Mode.select, Text.isBlankText, List.all_eq_not_any_not]
  cases k.toList.any (fun c => !Text.isBlank c) <;> rfl

namespace Transformer

variable {t : Transformer} {service : RewritingService} {r : Request}

theorem serve_eq (t : Transformer) (service : RewritingService) (r : Request) :
    t.serve service r.route r.code r.settings r.credential =
      match r.sent with
      | some q => some (t.serveRemotely service r.code r.settings q.credential)
      | none =>
        if r.route = .serviceOnly then
          some { result := .error .missingCredential, calls := [], transformer := t }
        else t.serveLocally r.code r.settings := by
  obtain ⟨route, code, settings, credential⟩ := r
  cases credential with
  | none => cases route <;> rfl
  | some k =>
      -- the credential selects the service exactly when it has a character that is not blank
      simp only [serve, Request.sent, Mode.select_some]
      by_cases hk : k.toList.any (fun c => !Text.isBlank c) = true <;> cases route <;> simp [hk]

theorem sent_eq {q : DelegateRequest} (h : r.sent = some q) :
    q = { code := r.code, settings := r.settings, credential := q.credential } := by
  obtain ⟨route, code, settings, credential⟩ := r
  simp only [Request.sent] at h
  split at h
  · cases h
  · cases h
  · split at h
    · cases h
      rfl
    · cases h

theorem serveLocally_eq_some {code : String} {settings : Settings} {x : Exchange}
    (h : t.serveLocally code settings = some x) :
    ∃ o names, Pipeline.run t.seed settings code = some (o, names) ∧
      x = { result := .ok o, calls := [], transformer := t.count (·.recordSuccess o.strategy o.report) } := by
  obtain ⟨⟨o, names⟩, hrun, rfl⟩ := Option.map_eq_some_iff.mp h
  exact ⟨o, names, hrun, rfl⟩

theorem serveRemotely_served {q : DelegateRequest} (hq : r.sent = some q) :
    Served service t.seed r (t.serveRemotely service r.code r.settings q.credential).result
      (t.serveRemotely service r.code r.settings q.credential).calls := by
  have hreq := sent_eq hq
  rw [hreq] at hq
  simp only [serveRemotely]
  cases hreply : service { code := r.code, settings := r.settings, credential := q.credential } with
  | error e =>
      exact Served.failed hq hreply
  | ok raw =>
      simp only [Except.bind]
      cases hempty : (Delegate.stripCodeFences raw).isEmpty with
      | true => exact Served.emptyReply hq hreply hempty
      | false => exact Served.delegated hq hreply hempty

theorem serve_served {x : Exchange}
    (h : t.serve service r.route r.code r.settings r.credential = some x) :
    Served service t.seed r x.result x.calls := by
  rw [serve_eq] at h
  cases hsent : r.sent with
  | some q =>
      rw [hsent] at h
      cases h
      exact serveRemotely_served hsent
  | none =>
      rw [hsent] at h
      by_cases hroute : r.route = .serviceOnly
      · rw [if_pos hroute] at h
        cases h
        exact Served.refused hsent hroute
      · rw [if_neg hroute] at h
        obtain ⟨o, names, hrun, rfl⟩ := serveLocally_eq_some h
        exact Served.onMachine ⟨hsent, hroute⟩ hrun

theorem serve_eq_none_iff :
    t.serve service r.route r.code r.settings r.credential = none ↔
      r.IsLocal ∧ Pipeline.run t.seed r.settings r.code = none := by
  rw [serve_eq]
  cases hsent : r.sent with
  | some q => simp [Request.IsLocal, hsent]
  | none =>
      by_cases hroute : r.route = .serviceOnly
      · simp [Request.IsLocal, hsent, hroute]
      · simp [Request.IsLocal, hsent, hroute, serveLocally]

end Transformer

/-! ## Counters -/

namespace Metrics

def count (m : Metrics) (label : String) : Nat := (m.transformations.lookup label).getD 0

/-- What serving a request with the given result does to the counters: a completed
transformation is counted with its report, a failed call to the service is counted as such, and
a refusal counts nothing. -/
def record (m : Metrics) : Except Failure Outcome → Metrics
  | .ok o => m.recordSuccess o.strategy o.report
  | .error (.delegated _) => m.recordDelegatedFailure
  | .error _ => m

theorem lookup_cons_eq (a k : String) (n : Nat) (ts : List (String × Nat)) :
    ((k, n) :: ts).lookup a = if a = k then some n else ts.lookup a := by
  by_cases h : a = k
  · simp [h]
  · have hbeq : (a == k) = false := beq_eq_false_iff_ne.mpr h
    simp [List.lookup_cons, hbeq, h]

theorem lookup_eq_none_of_lt {label : String} :
    ∀ {ts : List (String × Nat)}, (∀ k ∈ ts.map Prod.fst, label < k) → ts.lookup label = none
  | [], _ => rfl
  | (l, n) :: rest, h => by
      have hl : label < l := h l (by simp)
      rw [lookup_cons_eq, if_neg (ne_of_lt hl),
        lookup_eq_none_of_lt fun k hk => h k (List.mem_cons_of_mem _ hk)]

theorem lookup_bump (label a : String) :
    ∀ {ts : List (String × Nat)}, (ts.map Prod.fst).Pairwise (· < ·) →
      ((bump label ts).lookup a).getD 0 = (ts.lookup a).getD 0 + if a = label then 1 else 0
  | [], _ => by by_cases h : a = label <;> simp [bump, lookup_cons_eq, h]
  | (l, n) :: rest, h => by
      rw [List.map_cons, List.pairwise_cons] at h
      obtain ⟨hl, hrest⟩ := h
      simp only [bump]
      split
      · rename_i heq
        subst heq
        by_cases ha : a = l <;> simp [lookup_cons_eq, ha]
      · split
        · rename_i _ hlt
          -- the label is new: it stands before `l` and nowhere after
          have hnone : ((l, n) :: rest).lookup label = none :=
            lookup_eq_none_of_lt fun k hk => by
              rcases List.mem_cons.mp hk with rfl | hk
              · exact hlt
              · exact lt_trans hlt (hl k hk)
          by_cases ha : a = label
          · subst ha
            rw [lookup_cons_eq, if_pos rfl, hnone]
            simp
          · rw [lookup_cons_eq, if_neg ha]
            simp [ha]
        · rename_i hne _
          rw [lookup_cons_eq, lookup_cons_eq]
          by_cases ha : a = l
          · subst ha
            simp [hne]
          · simp only [if_neg ha]
            exact lookup_bump label a hrest

/-! ### What one result does to the counters -/

section record

variable {m : Metrics} {s : Strategy} {r? : Option Report}

@[simp] theorem transformations_recordSuccess :
    (m.recordSuccess s r?).transformations = bump s.name m.transformations := by
  cases r? <;> rfl

@[simp] theorem literalsRecoded_recordSuccess :
    (m.recordSuccess s r?).literalsRecoded = m.literalsRecoded + (r?.map (·.literalsRecoded)).getD 0 := by
  cases r? <;> rfl

@[simp] theorem encodingFailures_recordSuccess :
    (m.recordSuccess s r?).encodingFailures = m.encodingFailures + (r?.map (·.literalsFailed)).getD 0 := by
  cases r? <;> rfl

@[simp] theorem delegatedFailures_recordSuccess :
    (m.recordSuccess s r?).delegatedFailures = m.delegatedFailures := by
  cases r? <;> rfl

@[simp] theorem record_ok (o : Outcome) : m.record (.ok o) = m.recordSuccess o.strategy o.report :=
  rfl

@[simp] theorem record_delegated (e : DelegateError) :
    m.record (.error (.delegated e)) = m.recordDelegatedFailure := rfl

theorem record_error {f : Failure} (hf : ∀ e, f ≠ .delegated e) : m.record (.error f) = m := by
  cases f with
  | delegated e => exact absurd rfl (hf e)
  | _ => rfl

theorem count_record (label : String) (result : Except Failure Outcome) :
    (m.record result).count label =
      m.count label + result.toOption.toList.countP (·.strategy.name == label) := by
  cases result with
  | ok o =>
      have hbump := lookup_bump o.strategy.name label m.sorted
      by_cases hl : label = o.strategy.name
      · simp_all [count, Except.toOption]
      · have hl' : (o.strategy.name == label) = false := beq_eq_false_iff_ne.mpr (Ne.symm hl)
        simp_all [count, Except.toOption]
  | error f => cases f <;> rfl

def report? (result : Except Failure Outcome) : Option Report := result.toOption.bind (·.report)

theorem literalsRecoded_record (result : Except Failure Outcome) :
    (m.record result).literalsRecoded =
      m.literalsRecoded + ((report? result).map (·.literalsRecoded)).getD 0 := by
  cases result with
  | ok o => simp [report?, Except.toOption]
  | error f => cases f <;> rfl

theorem encodingFailures_record (result : Except Failure Outcome) :
    (m.record result).encodingFailures =
      m.encodingFailures + ((report? result).map (·.literalsFailed)).getD 0 := by
  cases result with
  | ok o => simp [report?, Except.toOption]
  | error f => cases f <;> rfl

theorem delegatedFailures_record (result : Except Failure Outcome) :
    (m.record result).delegatedFailures =
      m.delegatedFailures + if result matches .error (.delegated _) then 1 else 0 := by
  cases result with
  | ok o => simp
  | error f => cases f <;> rfl

end record

end Metrics

/-! ## Sessions -/

namespace Transformer

variable {t : Transformer} {service : RewritingService} {r : Request}

@[simp] theorem seed_count (f : Metrics → Metrics) : (t.count f).seed = t.seed := rfl

theorem count_count (f g : Metrics → Metrics) : (t.count f).count g = t.count (fun m => g (f m)) := by
  simp [count, Option.map_map, Function.comp_def]

theorem count_id : t.count (fun m => m) = t := by
  simp [count]

theorem serve_transformer {x : Exchange}
    (h : t.serve service r.route r.code r.settings r.credential = some x) :
    x.transformer = t.count (·.record x.result) := by
  rw [serve_eq] at h
  cases hsent : r.sent with
  | some q =>
      rw [hsent] at h
      cases h
      simp only [serveRemotely]
      cases service { code := r.code, settings := r.settings, credential := q.credential } with
      | error e => rfl
      | ok raw =>
          simp only [Except.bind]
          split <;> rfl
  | none =>
      rw [hsent] at h
      by_cases hroute : r.route = .serviceOnly
      · rw [if_pos hroute] at h
        cases h
        exact count_id.symm
      · rw [if_neg hroute] at h
        obtain ⟨o, names, -, rfl⟩ := serveLocally_eq_some h
        rfl

/-- Serves requests one after another, each with the counters the ones before left: the
exchanges in order and the transformer after the last, or `none` when a request cannot be
served. -/
def serveAll (service : RewritingService) : Transformer → List Request →
    Option (List Exchange × Transformer)
  | t, [] => some ([], t)
  | t, r :: rs => do
    let x ← t.serve service r.route r.code r.settings r.credential
    let (xs, t') ← serveAll service x.transformer rs
    pure (x :: xs, t')

theorem serveAll_eq_none_iff : ∀ {t : Transformer} {rs : List Request},
    serveAll service t rs = none ↔
      ∃ r ∈ rs, r.IsLocal ∧ Pipeline.run t.seed r.settings r.code = none
  | t, [] => by simp [serveAll]
  | t, r :: rs => by
      simp only [serveAll, List.mem_cons, exists_eq_or_imp]
      cases hx : t.serve service r.route r.code r.settings r.credential with
      | none =>
          simp only [Option.bind_eq_bind, Option.bind_none, true_iff]
          exact Or.inl (serve_eq_none_iff.mp hx)
      | some x =>
          have hseed : x.transformer.seed = t.seed := by rw [serve_transformer hx]; rfl
          have hr : ¬ (r.IsLocal ∧ Pipeline.run t.seed r.settings r.code = none) := fun hr => by
            rw [serve_eq_none_iff.mpr hr] at hx
            cases hx
          simp only [Option.bind_eq_bind, Option.bind_some, hr, false_or]
          rw [← hseed, ← serveAll_eq_none_iff]
          cases serveAll service x.transformer rs <;> simp

theorem serveAll_eq_some : ∀ {t t' : Transformer} {rs : List Request} {xs : List Exchange},
    serveAll service t rs = some (xs, t') →
      List.Forall₂ (fun r x => Served service t.seed r x.result x.calls) rs xs ∧
        t' = t.count (fun m => xs.foldl (fun m x => m.record x.result) m)
  | t, t', [], xs, h => by
      simp only [serveAll, Option.some.injEq, Prod.mk.injEq] at h
      obtain ⟨rfl, rfl⟩ := h
      exact ⟨List.Forall₂.nil, count_id.symm⟩
  | t, t', r :: rs, xs, h => by
      simp only [serveAll, Option.bind_eq_bind] at h
      obtain ⟨x, hx, h⟩ := Option.bind_eq_some_iff.mp h
      obtain ⟨⟨xs', t''⟩, hrest, h⟩ := Option.bind_eq_some_iff.mp h
      simp only [Option.pure_def, Option.some.injEq, Prod.mk.injEq] at h
      obtain ⟨rfl, rfl⟩ := h
      have htrans := serve_transformer hx
      obtain ⟨hserved, hcount⟩ := serveAll_eq_some hrest
      rw [htrans, seed_count] at hserved
      refine ⟨List.Forall₂.cons (serve_served hx) hserved, ?_⟩
      rw [hcount, htrans, count_count]
      rfl

end Transformer

theorem Pipeline.run_onMachine {seed : UInt64} {s : Settings} {code : String} {o : Outcome}
    {names : RenameMap} (h : Pipeline.run seed s code = some (o, names)) :
    o.strategy = .onMachine ∧ o.report.isSome := by
  unfold Pipeline.run at h
  -- whichever passes run, the run ends by building the local outcome with its report
  cases hr : s.renameVariables <;> cases hs : s.stringEncryption <;>
    cases hm : s.intensity.minifies <;> simp [hr, hs, hm, Option.bind_eq_some_iff] at h <;> grind

/-! ## Counting a session -/

def outcomes (xs : List Exchange) : List Outcome := xs.filterMap (·.result.toOption)

theorem outcomes_cons (x : Exchange) (xs : List Exchange) :
    outcomes (x :: xs) = x.result.toOption.toList ++ outcomes xs := by
  cases h : x.result.toOption <;> simp [outcomes, h]

def reports (xs : List Exchange) : List Report := xs.filterMap (Metrics.report? ·.result)

theorem reports_cons (x : Exchange) (xs : List Exchange) :
    reports (x :: xs) = (Metrics.report? x.result).toList ++ reports xs := by
  cases h : Metrics.report? x.result <;> simp [reports, h]

theorem sum_map_toList (r? : Option Report) (f : Report → Nat) :
    (r?.toList.map f).sum = (r?.map f).getD 0 := by
  cases r? <;> simp

/-- The counters after a session, against those before it: each label of the transformations
counter grows by the outcomes of the strategy of that name, the literal counters by the reports
of the local outcomes, and the failure counter by the calls to the service that failed. -/
structure Counted (before : Metrics) (xs : List Exchange) (after : Metrics) : Prop where
  transformations : ∀ label, after.count label =
    before.count label + (outcomes xs).countP (·.strategy.name == label)
  literalsRecoded : after.literalsRecoded =
    before.literalsRecoded + ((reports xs).map (·.literalsRecoded)).sum
  encodingFailures : after.encodingFailures =
    before.encodingFailures + ((reports xs).map (·.literalsFailed)).sum
  delegatedFailures : after.delegatedFailures =
    before.delegatedFailures + xs.countP (·.result matches .error (.delegated _))

theorem counted_foldl : ∀ {m : Metrics} (xs : List Exchange),
    Counted m xs (xs.foldl (fun m x => m.record x.result) m)
  | m, [] => ⟨fun _ => rfl, rfl, rfl, rfl⟩
  | m, x :: xs => by
      obtain ⟨hcount, hrecoded, hfailed, hservice⟩ := counted_foldl (m := m.record x.result) xs
      refine ⟨fun label => ?_, ?_, ?_, ?_⟩
      · rw [List.foldl_cons, hcount, Metrics.count_record, outcomes_cons, List.countP_append]
        omega
      · rw [List.foldl_cons, hrecoded, Metrics.literalsRecoded_record, reports_cons, List.map_append,
          List.sum_append, sum_map_toList]
        omega
      · rw [List.foldl_cons, hfailed, Metrics.encodingFailures_record, reports_cons, List.map_append,
          List.sum_append, sum_map_toList]
        omega
      · rw [List.foldl_cons, hservice, Metrics.delegatedFailures_record, List.countP_cons]
        omega

theorem Served.ok_strategy {service : RewritingService} {seed : UInt64} {r : Request} {o : Outcome}
    {calls : List DelegateRequest} (h : Served service seed r (.ok o) calls) :
    (calls = [] ↔ o.strategy = .onMachine) ∧ (o.report.isSome ↔ o.strategy = .onMachine) := by
  cases h with
  | onMachine _ hrun =>
      obtain ⟨hstrategy, hreport⟩ := Pipeline.run_onMachine hrun
      simp [hstrategy, hreport]
  | delegated _ _ _ => simp [Outcome.ofDelegated]

namespace Served

variable {service : RewritingService} {seed : UInt64}

theorem map_calls {rs : List Request} {xs : List Exchange}
    (h : List.Forall₂ (fun r x => Served service seed r x.result x.calls) rs xs) :
    xs.map (·.calls) = rs.map (·.sent.toList) := by
  induction h with
  | nil => rfl
  | cons hx _ ih => simp [hx.calls_eq, ih]

theorem ok_strategy_of_mem {rs : List Request} {xs : List Exchange}
    (h : List.Forall₂ (fun r x => Served service seed r x.result x.calls) rs xs)
    {x : Exchange} (hx : x ∈ xs) {o : Outcome} (ho : x.result = .ok o) :
    (x.calls = [] ↔ o.strategy = .onMachine) ∧ (o.report.isSome ↔ o.strategy = .onMachine) := by
  induction h with
  | nil => cases hx
  | cons hr _ ih =>
      rcases List.mem_cons.mp hx with rfl | hx
      · rw [ho] at hr
        exact hr.ok_strategy
      · exact ih hx

end Served

namespace Transformer

/-- A session keeps the two ways of serving apart and counts itself exactly.

It stops short only at a request served locally whose local run fails. Otherwise each request
is served as `Served` says: the service is asked once, with the credential as given, exactly
when the request does not insist on the local pipeline and its credential has a character that
is not blank, and never otherwise; a request served locally returns the local pipeline's
outcome, one insisting on the service without a credential is refused, and one that reached the
service returns its reply without fences or its failure, empty replies failing. An outcome is
local, and carries a report, exactly when the service was not asked. The transformer keeps its
seed, keeps no counters if it had none, and otherwise counts the session exactly. -/
theorem serving_keeps_modes_apart (service : RewritingService) (t : Transformer)
    (rs : List Request) :
    (serveAll service t rs = none ↔
      ∃ r ∈ rs, r.IsLocal ∧ Pipeline.run t.seed r.settings r.code = none) ∧
    ∀ xs t', serveAll service t rs = some (xs, t') →
      List.Forall₂ (fun r x => Served service t.seed r x.result x.calls) rs xs ∧
      xs.map (·.calls) = rs.map (·.sent.toList) ∧
      (∀ x ∈ xs, ∀ o, x.result = .ok o →
        (x.calls = [] ↔ o.strategy = .onMachine) ∧ (o.report.isSome ↔ o.strategy = .onMachine)) ∧
      t'.seed = t.seed ∧ (t.metrics = none → t'.metrics = none) ∧
      ∀ m, t.metrics = some m → ∃ m', t'.metrics = some m' ∧ Counted m xs m' := by
  refine ⟨serveAll_eq_none_iff, fun xs t' h => ?_⟩
  obtain ⟨hserved, rfl⟩ := serveAll_eq_some h
  refine ⟨hserved, Served.map_calls hserved, fun x hx o ho => Served.ok_strategy_of_mem hserved hx ho,
    rfl,
    fun hm => by simp [count, hm], fun m hm => ?_⟩
  exact ⟨_, by simp [count, hm], counted_foldl xs⟩

end Transformer

end Obfuscator
