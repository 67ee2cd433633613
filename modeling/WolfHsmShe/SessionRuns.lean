import WolfHsmShe.AesMpLoop
import WolfHsmShe.Frame

/-! # What a session binds once: the UID and the PRNG -/

namespace WolfHsmShe

variable (p : Platform) (env : Env)

/-! ## The UID -/

theorem dispatch_setUid (s : Server) (u : Buf 15) :
    whServerHandleSheRequest p env s (.setUid u) =
      if s.she.uidSet then (s, .error .sequenceError)
      else ({ s with she := { s.she with uid := u, uidSet := true } }, .ok .setUid) := by
  cases h0 : s.she.uidSet
  · exact dispatch_of_handler_ok p env (by simp [gated, Request.bootAction, Request.isSetUid])
      (by simp [sheHandler, hsmSheSetUid_run, h0])
  · simp [whServerHandleSheRequest, gated, Request.bootAction, Request.isSetUid, sheHandler,
      hsmSheSetUid_run, h0, replyErc, sheStandardErcs, Request.isSecureBoot]

theorem dispatch_uid (s : Server) (req : Request) :
    ((whServerHandleSheRequest p env s req).1.she.uid = s.she.uid ∧
        (whServerHandleSheRequest p env s req).1.she.uidSet = s.she.uidSet) ∨
      ∃ u, req = .setUid u ∧ (whServerHandleSheRequest p env s req).2 = .ok .setUid ∧
        s.she.uidSet = false ∧ (whServerHandleSheRequest p env s req).1.she.uid = u ∧
        (whServerHandleSheRequest p env s req).1.she.uidSet = true := by
  cases req
  case setUid u =>
    rw [dispatch_setUid]
    by_cases h0 : s.she.uidSet = true
    · rw [if_pos h0]
      exact .inl ⟨rfl, rfl⟩
    · rw [if_neg h0]
      exact .inr ⟨u, rfl, rfl, by simpa using h0, rfl, rfl⟩
  all_goals exact .inl ((dispatch_confined p env s _).she_eq.1 (by simp [Request.regions]))

theorem dispatch_keeps_uid {u : Buf 15} {s : Server} (h : s.she.uidSet = true ∧ s.she.uid = u)
    (req : Request) :
    (whServerHandleSheRequest p env s req).1.she.uidSet = true ∧
      (whServerHandleSheRequest p env s req).1.she.uid = u := by
  rcases dispatch_uid p env s req with ⟨h1, h2⟩ | ⟨_, -, -, h0, -⟩
  · exact ⟨h2 ▸ h.1, h1 ▸ h.2⟩
  · simp [h.1] at h0

theorem uid_kept_after_setUid {s : Server} {reqs : List Request} {st₁ : Step} {u : Buf 15}
    (h₁ : st₁ ∈ trace p env s reqs) (hreq : st₁.req = .setUid u) (hrep : st₁.reply = .ok .setUid) :
    st₁.post.she.uidSet = true ∧ st₁.post.she.uid = u ∧
      ∀ st₂, [st₁, st₂].Sublist (trace p env s reqs) →
        st₂.pre.she.uidSet = true ∧ st₂.pre.she.uid = u ∧
        st₂.post.she.uidSet = true ∧ st₂.post.she.uid = u ∧
        ∀ u', st₂.req = .setUid u' → st₂.reply = .error .sequenceError ∧ st₂.post = st₂.pre := by
  have e₁ := trace_step p env h₁
  rw [hreq, dispatch_setUid] at e₁
  split_ifs at e₁
  · exact absurd ((Prod.mk.inj e₁).2.trans hrep) nofun
  have hp : st₁.post.she.uidSet = true ∧ st₁.post.she.uid = u := by
    rw [← (Prod.mk.inj e₁).1]
    exact ⟨rfl, rfl⟩
  refine ⟨hp.1, hp.2, fun st₂ h₂ => ?_⟩
  obtain ⟨hI, e₂⟩ :=
    trace_later_inv p env (I := fun s => s.she.uidSet = true ∧ s.she.uid = u)
      (fun _ req h => dispatch_keeps_uid p env h req) h₂ hp
  have hpost := dispatch_keeps_uid p env hI st₂.req
  rw [e₂] at hpost
  refine ⟨hI.1, hI.2, hpost.1, hpost.2, fun u' hreq' => ?_⟩
  rw [hreq', dispatch_setUid, if_pos hI.1] at e₂
  exact ⟨(Prod.mk.inj e₂).2.symm, (Prod.mk.inj e₂).1.symm⟩

/-- Only the first successful `SET_UID` changes the UID; afterwards every state holds it and
every `SET_UID` answers `SEQUENCE_ERROR` and changes nothing. -/
theorem uid_bound_once (s : Server) (reqs : List Request) :
    (∀ st ∈ trace p env s reqs,
      (st.post.she.uid ≠ st.pre.she.uid ∨ st.post.she.uidSet ≠ st.pre.she.uidSet) →
      ∃ u, st.req = .setUid u ∧ st.reply = .ok .setUid ∧
        ∀ st₀ u₀, [st₀, st].Sublist (trace p env s reqs) → st₀.req = .setUid u₀ →
          st₀.reply ≠ .ok .setUid) ∧
    ∀ st₁ u, st₁ ∈ trace p env s reqs → st₁.req = .setUid u → st₁.reply = .ok .setUid →
      st₁.post.she.uidSet = true ∧ st₁.post.she.uid = u ∧
      ∀ st₂, [st₁, st₂].Sublist (trace p env s reqs) →
        st₂.pre.she.uidSet = true ∧ st₂.pre.she.uid = u ∧
        st₂.post.she.uidSet = true ∧ st₂.post.she.uid = u ∧
        ∀ u', st₂.req = .setUid u' → st₂.reply = .error .sequenceError ∧ st₂.post = st₂.pre := by
  refine ⟨fun st h hch => ?_, fun _ _ h₁ hreq hrep => uid_kept_after_setUid p env h₁ hreq hrep⟩
  rcases dispatch_uid p env st.pre st.req with ⟨h1, h2⟩ | ⟨u, hreq, hrep, h0, -⟩ <;>
    rw [trace_step p env h] at *
  · exact (hch.elim (· h1) (· h2)).elim
  refine ⟨u, hreq, hrep, fun st₀ u₀ h₀ hreq₀ hrep₀ => ?_⟩
  have := (uid_kept_after_setUid p env (h₀.subset (List.mem_cons_self _ _)) hreq₀ hrep₀).2.2 st h₀
  simp [this.1] at h0

/-! ## The PRNG -/

/-- The requests of the PRNG: `INIT_RND`, `RND` and `EXTEND_SEED`. -/
def Request.isPrng : Request → Bool
  | .initRnd | .rnd | .extendSeed _ => true
  | _ => false

theorem dispatch_initRnd_of_inited {s : Server} (h : s.she.rndInited = true) :
    whServerHandleSheRequest p env s .initRnd = (s, .error .sequenceError) := by
  have hh : sheHandler p env .initRnd s = (.error (.erc .sequenceError), s) := by
    simp [sheHandler, hsmSheInitRnd, h]
  unfold whServerHandleSheRequest
  split_ifs
  · rfl
  · simp [hh, replyErc, sheStandardErcs, Request.isSecureBoot]

theorem dispatch_rng_of_not_inited {s : Server} (h : s.she.rndInited = false) {req : Request}
    (hreq : req = .rnd ∨ ∃ e, req = .extendSeed e) :
    whServerHandleSheRequest p env s req =
      (s, .error (if gated s.she req then .sequenceError else .rngSeed)) := by
  have hh : sheHandler p env req s = (.error (.erc .rngSeed), s) := by
    rcases hreq with rfl | ⟨e, rfl⟩
    · simp [sheHandler, hsmSheRnd_run, h]
    · exact hsmSheExtendSeed_of_not_inited p env e h
  have hsb : req.isSecureBoot = false := by rcases hreq with rfl | ⟨e, rfl⟩ <;> rfl
  unfold whServerHandleSheRequest
  split_ifs <;> simp [hh, hsb, replyErc, sheStandardErcs]

theorem dispatch_keeps_prngKey {s : Server} (h : s.she.rndInited = true) (req : Request) :
    (whServerHandleSheRequest p env s req).1.she.rndInited = true ∧
      (whServerHandleSheRequest p env s req).1.she.prngKey = s.she.prngKey := by
  by_cases hi : req = .initRnd
  · subst hi
    rw [dispatch_initRnd_of_inited p env h]
    exact ⟨h, rfl⟩
  · obtain ⟨-, -, h1, -, h3, -, -⟩ := (dispatch_confined p env s req).she_eq
    have hr : Region.rndInited ∉ req.regions ∧ Region.prngKey ∉ req.regions := by
      cases req <;> simp_all [Request.regions]
    exact ⟨(h1 hr.1).trans h, h3 hr.2⟩

theorem dispatch_prng_frame (s : Server) {req : Request} (h : req.isPrng = false) :
    (whServerHandleSheRequest p env s req).1.she.rndInited = s.she.rndInited ∧
      (whServerHandleSheRequest p env s req).1.she.prngState = s.she.prngState ∧
      (whServerHandleSheRequest p env s req).1.she.prngKey = s.she.prngKey := by
  obtain ⟨-, -, h1, h2, h3, -, -⟩ := (dispatch_confined p env s req).she_eq
  have hr : Region.rndInited ∉ req.regions ∧ Region.prngState ∉ req.regions ∧
      Region.prngKey ∉ req.regions := by
    cases req <;> simp_all [Request.regions, Request.isPrng]
  exact ⟨h1 hr.1, h2 hr.2.1, h3 hr.2.2⟩

theorem dispatch_starts_prng {s : Server} {req : Request} (h0 : s.she.rndInited = false)
    (h1 : (whServerHandleSheRequest p env s req).1.she.rndInited = true) :
    req = .initRnd ∧ ∃ r, (whServerHandleSheRequest p env s req).2 = .ok r := by
  by_cases hi : req = .initRnd
  · subst hi
    refine ⟨rfl, ?_⟩
    rcases hr : (whServerHandleSheRequest p env s .initRnd).2 with r | e
    · exact ⟨r, rfl⟩
    exfalso
    unfold whServerHandleSheRequest at hr h1
    split_ifs at hr h1
    · simp [h0] at h1
    rcases hh : sheHandler p env .initRnd s with ⟨_ | _, s'⟩ <;> rw [hh] at hr h1 <;>
      simp only [reduceCtorEq] at hr
    simp [(hsmSheInitRnd_error p env hh).1, h0, Request.isSecureBoot] at h1
  · obtain ⟨-, -, h2, -, -, -, -⟩ := (dispatch_confined p env s req).she_eq
    have hr : Region.rndInited ∉ req.regions := by cases req <;> simp_all [Request.regions]
    simp [h2 hr, h0] at h1

/-- The SHE PRNG's laws for one call: `INIT_RND` once and first, then `RND` and `EXTEND_SEED`. -/
structure PrngLaws (st : Step) : Prop where
  init_once : st.pre.she.rndInited = true → st.req = .initRnd →
    st.reply = .error .sequenceError ∧ st.post = st.pre
  before_init : st.pre.she.rndInited = false → (st.req = .rnd ∨ ∃ e, st.req = .extendSeed e) →
    st.reply = .error (if gated st.pre.she st.req then .sequenceError else .rngSeed) ∧
      st.post = st.pre
  started_by_init : st.pre.she.rndInited = false → st.post.she.rndInited = true →
    st.req = .initRnd ∧ ∃ r, st.reply = .ok r
  init_ok : st.req = .initRnd → ∀ r, st.reply = .ok r →
    ∃ secret seed seedKey seed',
      readResult env st.pre.keys (sheKeyId p st.pre.clientId p.secretKeyId) = .ok secret ∧
      readResult env st.pre.keys (sheKeyId p st.pre.clientId p.prngSeedId) = .ok seed ∧
      aesMp16 env (secret.key.toList ++ shePrngSeedKeyC) = .ok seedKey ∧
      env.cbcEncrypt seedKey zeroBlock 16 seed.key = .ok seed' ∧
      st.post.keys (sheKeyId p st.pre.clientId p.prngSeedId) = some { seed with key := seed' } ∧
      st.post.she.prngState = seed' ∧
      aesMp16 env (secret.key.toList ++ shePrngKeyC) = .ok st.post.she.prngKey ∧
      st.post.she.rndInited = true
  key_kept : st.pre.she.rndInited = true →
    st.post.she.rndInited = true ∧ st.post.she.prngKey = st.pre.she.prngKey
  rnd_ok : st.req = .rnd → ∀ r, st.reply = .ok r →
    env.cbcEncrypt st.pre.she.prngKey zeroBlock 16 st.pre.she.prngState =
        .ok st.post.she.prngState ∧ r = .rnd st.post.she.prngState
  extend_ok : ∀ e, st.req = .extendSeed e → ∀ r, st.reply = .ok r →
    aesMp16 env (st.pre.she.prngState.toList ++ e.toList) = .ok st.post.she.prngState ∧
      ∃ seed seed', st.pre.keys (sheKeyId p st.pre.clientId p.prngSeedId) = some seed ∧
        aesMp16 env (seed.key.toList ++ e.toList) = .ok seed' ∧
        st.post.keys (sheKeyId p st.pre.clientId p.prngSeedId) = some { seed with key := seed' }
  frame : st.req.isPrng = false → st.post.she.rndInited = st.pre.she.rndInited ∧
    st.post.she.prngState = st.pre.she.prngState ∧ st.post.she.prngKey = st.pre.she.prngKey

theorem dispatch_initRnd_ok {s : Server} {r : Resp}
    (h : (whServerHandleSheRequest p env s .initRnd).2 = .ok r) :
    ∃ secret seed seedKey seed',
      readResult env s.keys (sheKeyId p s.clientId p.secretKeyId) = .ok secret ∧
      readResult env s.keys (sheKeyId p s.clientId p.prngSeedId) = .ok seed ∧
      aesMp16 env (secret.key.toList ++ shePrngSeedKeyC) = .ok seedKey ∧
      env.cbcEncrypt seedKey zeroBlock 16 seed.key = .ok seed' ∧
      (whServerHandleSheRequest p env s .initRnd).1.keys (sheKeyId p s.clientId p.prngSeedId) =
        some { seed with key := seed' } ∧
      (whServerHandleSheRequest p env s .initRnd).1.she.prngState = seed' ∧
      aesMp16 env (secret.key.toList ++ shePrngKeyC) =
        .ok (whServerHandleSheRequest p env s .initRnd).1.she.prngKey ∧
      (whServerHandleSheRequest p env s .initRnd).1.she.rndInited = true := by
  obtain ⟨-, hh⟩ := handler_of_dispatch_ok p env h
  obtain ⟨-, -, secret, seed, seedKey, seed', h1, h2, h3, h4, h5, hs⟩ :=
    hsmSheInitRnd_ok p env hh
  rw [hs]
  exact ⟨secret, seed, seedKey, seed', h1, h3, h2, h4, by simp, rfl,
    aesMp16_of_whAesMp16 env (Prod.ext rfl h5), rfl⟩

theorem dispatch_extendSeed_ok {s : Server} {e : Block} {r : Resp}
    (h : (whServerHandleSheRequest p env s (.extendSeed e)).2 = .ok r) :
    aesMp16 env (s.she.prngState.toList ++ e.toList) =
        .ok (whServerHandleSheRequest p env s (.extendSeed e)).1.she.prngState ∧
      ∃ seed seed', s.keys (sheKeyId p s.clientId p.prngSeedId) = some seed ∧
        aesMp16 env (seed.key.toList ++ e.toList) = .ok seed' ∧
        (whServerHandleSheRequest p env s (.extendSeed e)).1.keys
          (sheKeyId p s.clientId p.prngSeedId) = some { seed with key := seed' } := by
  obtain ⟨-, hh⟩ := handler_of_dispatch_ok p env h
  obtain ⟨-, -, h1, seed, seed', h2, h3, hs⟩ := hsmSheExtendSeed_ok p env hh
  rw [hs]
  exact ⟨aesMp16_of_whAesMp16 env (Prod.ext rfl h1), seed, seed', (readResult_eq_ok env h2).2,
    h3, by simp⟩

theorem dispatch_prngLaws (s : Server) (req : Request) :
    PrngLaws p env ⟨s, req, (whServerHandleSheRequest p env s req).1,
      (whServerHandleSheRequest p env s req).2⟩ where
  init_once h hreq := by
    subst hreq
    rw [dispatch_initRnd_of_inited p env h]
    exact ⟨rfl, rfl⟩
  before_init h hreq := by
    rw [dispatch_rng_of_not_inited p env h hreq]
    exact ⟨rfl, rfl⟩
  started_by_init h0 h1 := dispatch_starts_prng p env h0 h1
  init_ok hreq r hr := by
    subst hreq
    exact dispatch_initRnd_ok p env hr
  key_kept h := dispatch_keeps_prngKey p env h req
  rnd_ok hreq r hr := by
    subst hreq
    obtain ⟨-, hh⟩ := handler_of_dispatch_ok p env hr
    simp only [sheHandler, hsmSheRnd_run] at hh
    split_ifs at hh
    · rcases hc : env.cbcEncrypt s.she.prngKey zeroBlock 16 s.she.prngState with e | st <;>
        rw [hc] at hh <;> simp only [Prod.mk.injEq, reduceCtorEq, false_and, Except.ok.injEq] at hh
      obtain ⟨rfl, hpost⟩ := hh
      dsimp only
      rw [← hpost]
      exact ⟨rfl, rfl⟩
    · cases hh
  extend_ok e hreq r hr := by
    subst hreq
    exact dispatch_extendSeed_ok p env hr
  frame h := dispatch_prng_frame p env s h

/-- Every call keeps `PrngLaws`; after a successful `INIT_RND` the PRNG is started under its key
and `INIT_RND` is refused, and before it the PRNG is not started. -/
theorem she_prng_refinement (s : Server) (reqs : List Request) :
    (∀ st ∈ trace p env s reqs, PrngLaws p env st) ∧
    (∀ st₁ st₂, [st₁, st₂].Sublist (trace p env s reqs) → st₁.req = .initRnd →
      (∃ r, st₁.reply = .ok r) →
      st₂.pre.she.rndInited = true ∧ st₂.pre.she.prngKey = st₁.post.she.prngKey) ∧
    ∀ st₁ st₂, [st₁, st₂].Sublist (trace p env s reqs) → st₂.req = .initRnd →
      (∃ r, st₂.reply = .ok r) → st₁.pre.she.rndInited = false := by
  have hlaws : ∀ st ∈ trace p env s reqs, PrngLaws p env st := fun st h => by
    have hl := dispatch_prngLaws p env st.pre st.req
    rwa [trace_step p env h] at hl
  have hkept : ∀ k s req, s.she.rndInited = true ∧ s.she.prngKey = k →
      (whServerHandleSheRequest p env s req).1.she.rndInited = true ∧
        (whServerHandleSheRequest p env s req).1.she.prngKey = k := fun k s req ⟨h1, h2⟩ =>
    h2 ▸ dispatch_keeps_prngKey p env h1 req
  refine ⟨hlaws, fun st₁ st₂ h hreq ⟨r, hr⟩ => ?_, fun st₁ st₂ h hreq ⟨r, hr⟩ => ?_⟩
  · have h₁ := (hlaws st₁ (h.subset (List.mem_cons_self _ _))).init_ok hreq r hr
    obtain ⟨_, _, _, _, -, -, -, -, -, -, -, hi⟩ := h₁
    exact (trace_later_inv p env (hkept _) h ⟨hi, rfl⟩).1
  · cases h0 : st₁.pre.she.rndInited
    · rfl
    have hl₁ := hlaws st₁ (h.subset (List.mem_cons_self _ _))
    have hl₂ := hlaws st₂ (h.subset (List.mem_cons_of_mem _ (List.mem_singleton_self _)))
    have h₂ := (trace_later_inv p env (hkept _) h ⟨(hl₁.key_kept h0).1, rfl⟩).1.1
    rw [(hl₂.init_once h₂ hreq).1] at hr
    cases hr

def prngSampleKeys : KeyStore := fun id =>
  if id = ⟨1, 0, 0⟩ then some ⟨0, 0, .replicate 16 0x44⟩
  else if id = ⟨1, 0, 15⟩ then some ⟨0, 0, .replicate 16 0x22⟩ else none

/-- Before `INIT_RND` and `SET_UID`, `RND` gets `SEQUENCE_ERROR` from the gate, not `RNG_SEED`. -/
theorem rnd_refused_by_gate_before_init :
    (trace (Platform.sample .little) Env.sample (Server.start 0 prngSampleKeys)
      [.rnd, .setUid (.replicate 15 7), .secureBootInit 0, .initRnd]).map Step.reply =
      [.error .sequenceError, .ok .setUid, .error .noSecureBoot, .ok .initRnd] := by
  decide

end WolfHsmShe
