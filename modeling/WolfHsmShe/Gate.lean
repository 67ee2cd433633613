import WolfHsmShe.Frame

/-!
# The gate of the dispatcher

No request before `SET_UID` and secure boot writes the store, the PRNG or `ramKeyPlain`.
-/

namespace WolfHsmShe

namespace Request

/-- The actions that use a key of the store or the PRNG key. -/
def usesKey : Request → Bool
  | .loadKey .. | .exportRamKey | .rnd | .encEcb .. | .encCbc .. | .decEcb .. | .decCbc ..
  | .genMac .. | .verifyMac .. => true
  | _ => false

theorem footprint_of_bootAction {req : Request} (h : req.bootAction = true) (p : Platform) :
    req.regions ⊆ [.uid, .boot, .cmac] ∧ req.slots p = [] := by
  cases req <;> simp_all [bootAction, isSetUid, isSecureBoot, regions, slots]

theorem not_bootAction_of_usesKey {req : Request} (h : req.usesKey = true) :
    req.bootAction = false := by
  cases req <;> simp_all [bootAction, isSetUid, isSecureBoot, usesKey]

theorem isSetUid_of_uid_mem {req : Request} (h : Region.uid ∈ req.regions) :
    req.isSetUid = true := by
  cases req <;> simp_all [regions, isSetUid]

end Request

variable (p : Platform) (env : Env)

/-- What the gate guarantees of one call of the dispatcher. -/
structure GateKept (st : Step) : Prop where
  refused : (st.pre.she.uidSet = false ∧ st.req.isSetUid = false) ∨
      (st.pre.she.sbState ≠ .success ∧ st.req.bootAction = false) →
    st.post = st.pre ∧ st.reply = .error .sequenceError
  writes : st.post.keys ≠ st.pre.keys ∨ st.post.she.rndInited ≠ st.pre.she.rndInited ∨
      st.post.she.prngState ≠ st.pre.she.prngState ∨ st.post.she.prngKey ≠ st.pre.she.prngKey ∨
      st.post.she.ramKeyPlain ≠ st.pre.she.ramKeyPlain →
    st.pre.she.uidSet = true ∧ st.pre.she.sbState = .success
  uses : st.req.usesKey = true →
    (st.pre.she.uidSet = true ∧ st.pre.she.sbState = .success) ∨
    ∀ keys : KeyStore, whServerHandleSheRequest p env { st.pre with keys := keys } st.req =
      ({ st.pre with keys := keys }, .error .sequenceError)

theorem gated_iff (she : She) (req : Request) :
    gated she req = true ↔ (she.uidSet = false ∧ req.isSetUid = false) ∨
      (she.sbState ≠ .success ∧ req.bootAction = false) := by
  cases h : she.sbState <;> simp [gated, h, or_comm, and_comm]

theorem bootAction_of_passed {she : She} {req : Request} (hg : gated she req = false)
    (h : ¬ (she.uidSet = true ∧ she.sbState = .success)) : req.bootAction = true := by
  cases hb : req.bootAction
  · cases hu : req.isSetUid
    · simp_all [gated]
    · simp_all [Request.bootAction]
  · rfl

theorem dispatch_gateKept (s : Server) (req : Request) :
    GateKept p env ⟨s, req, (whServerHandleSheRequest p env s req).1,
      (whServerHandleSheRequest p env s req).2⟩ := by
  refine ⟨fun h => ?_, fun h => ?_, fun h => ?_⟩
  · simp [whServerHandleSheRequest, (gated_iff s.she req).2 h]
  · dsimp only at h ⊢
    by_contra hne
    cases hg : gated s.she req
    · have ⟨hr, hn⟩ := Request.footprint_of_bootAction (bootAction_of_passed hg hne) p
      have hc : Confined p [.uid, .boot, .cmac] [] s _ :=
        (dispatch_confined p env s req).mono hr (by simp [hn])
      obtain ⟨-, -, hri, hps, hpk, hrk, -⟩ := hc.she_eq
      have hk : (whServerHandleSheRequest p env s req).1.keys = s.keys :=
        funext fun id => hc.keys id (by simp)
      simp only [hk, hri (by decide), hps (by decide), hpk (by decide), hrk (by decide),
        ne_eq, not_true_eq_false, or_self] at h
    · simp [whServerHandleSheRequest, hg] at h
  · dsimp only at h ⊢
    by_cases hs : s.she.uidSet = true ∧ s.she.sbState = .success
    · exact .inl hs
    · refine .inr fun keys => ?_
      have hb := Request.not_bootAction_of_usesKey h
      have hg : gated s.she req = true := (gated_iff _ _).2 <| by
        by_cases hsb : s.she.sbState = .success
        · exact .inl ⟨by simpa [hsb] using hs, by simp_all [Request.bootAction]⟩
        · exact .inr ⟨hsb, hb⟩
      simp [whServerHandleSheRequest, hg]

theorem dispatch_eq_of_uidSet_false {s : Server} {req : Request}
    (h : (whServerHandleSheRequest p env s req).1.she.uidSet = false) :
    whServerHandleSheRequest p env s req = (s, .error .sequenceError) := by
  cases hg : gated s.she req
  · exfalso
    cases hs : req.isSetUid
    · have hu : s.she.uidSet = true := by
        simp only [gated, hs, Bool.or_eq_false_iff] at hg
        simpa using hg.2
      have hk := ((dispatch_confined p env s req).she_eq.1 fun hm => by
        simp [Request.isSetUid_of_uid_mem hm] at hs).2
      simp_all
    · cases req <;> simp only [Request.isSetUid, Bool.false_eq_true] at hs
      simp only [whServerHandleSheRequest, hg, sheHandler, hsmSheSetUid_run] at h
      split_ifs at h <;> simp_all [Request.isSecureBoot]
  · simp [whServerHandleSheRequest, hg]

theorem sbState_init_of_uidSet_false {s : Server} (h : Reachable p env s) :
    s.she.uidSet = false → s.she.sbState = .init := by
  refine Reachable.inv p env (I := fun s => s.she.uidSet = false → s.she.sbState = .init)
    (fun _ _ _ => rfl) (fun s req ih hu => ?_) h
  have e := dispatch_eq_of_uidSet_false p env hu
  rw [e] at hu ⊢
  exact ih hu

theorem gated_eq_false_of_success {s : Server} (h : Reachable p env s)
    (hs : s.she.sbState = .success) (req : Request) : gated s.she req = false := by
  have hu : s.she.uidSet = true := by
    by_contra hu
    simp [sbState_init_of_uidSet_false p env h (by simpa using hu)] at hs
  simp [gated, hu, hs]

/-- Over any run, each call of the dispatcher keeps the gate. -/
theorem gate_kept_on_runs (s : Server) (reqs : List Request) :
    ∀ st ∈ trace p env s reqs, GateKept p env st := by
  intro st h
  have := dispatch_gateKept p env st.pre st.req
  rwa [trace_step p env h] at this

theorem gate_kept_first_step :
    let s := Server.start 0 fun _ => none
    let st : Step := ⟨s, .rnd, (whServerHandleSheRequest (Platform.sample .big) Env.sample s .rnd).1,
      (whServerHandleSheRequest (Platform.sample .big) Env.sample s .rnd).2⟩
    st ∈ trace (Platform.sample .big) Env.sample s [.rnd] ∧ GateKept (Platform.sample .big) Env.sample st :=
  ⟨List.mem_cons_self _ _, gate_kept_on_runs _ _ _ [.rnd] _ (List.mem_cons_self _ _)⟩

end WolfHsmShe
