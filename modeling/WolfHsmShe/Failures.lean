import WolfHsmShe.Frame

/-!
# What a failed request leaves behind

A handler stops at its first nonzero `ret` and keeps what it wrote before.
-/

namespace WolfHsmShe

section OnError

variable {p : Platform} {rs : List Region} {ns : List Nat} {α β : Type}

/-- Every run of `m` that fails is confined to `rs` and `ns`. -/
def ConfinesOnError (p : Platform) (rs : List Region) (ns : List Nat) (m : SheM α) : Prop :=
  ∀ s e s', m s = (.error e, s') → Confined p rs ns s s'

theorem confinesOnError_of_confines {m : SheM α} (h : Confines p rs ns m) :
    ConfinesOnError p rs ns m :=
  fun s _ _ hm => by simpa [hm] using h s

theorem confinesOnError_bind {m : SheM α} {k : α → SheM β} (hm : Confines p rs ns m)
    (hk : ∀ a, ConfinesOnError p rs ns (k a)) : ConfinesOnError p rs ns (m >>= k) := by
  intro s e s'' h
  rw [SheM.bind_run] at h
  rcases hms : m s with ⟨_ | a, s'⟩ <;> rw [hms] at h
  · cases h
    simpa [hms] using hm s
  · exact (by simpa [hms] using hm s : Confined p rs ns s s').trans (hk a s' e s'' h)

theorem confinesOnError_modifyShe_pure (g : She → She) (r : α) :
    ConfinesOnError p rs ns (modifyShe g >>= fun _ => pure r) := by
  intro s e s' h
  simp [SheM.bind_run] at h

theorem confinesOnError_doIf_pure (c : Prop) [Decidable c] (g : She → She) (r : α) :
    ConfinesOnError p rs ns (doIf c (modifyShe g) >>= fun _ => pure r) := by
  intro s e s' h
  by_cases hc : c <;> simp [SheM.bind_run, hc] at h

theorem confinesOnError_orFail_writeKey_pure (err : Err) (fault : KeyId → Option Err) (n : Nat)
    (o : KeyObj) (r : α) :
    ConfinesOnError p rs ns (orFail err (writeKey p fault n o) >>= fun _ => pure r) := by
  intro s e s' h
  cases hf : fault (sheKeyId p s.clientId n) <;>
    simp [orFail, writeKey, SheM.bind_run, hf] at h
  cases h.2
  exact Confined.refl s

end OnError

namespace Request

/-- The regions of the SHE state a request may write and still fail. -/
def errRegions : Request → List Region
  | .setUid _ | .loadPlainKey _ | .rnd => []
  | .loadKey .. => [.cmac]
  | .initRnd => [.prngState, .prngKey]
  | req => req.regions

/-- The SHE slots of its client a request may write and still fail. -/
def errSlots (p : Platform) : Request → List Nat
  | .loadPlainKey _ | .extendSeed _ => []
  | req => req.slots p

end Request

variable (p : Platform) (env : Env)

theorem loadPlainKey_confinesOnError (key : Block) :
    ConfinesOnError p [] [] (hsmSheLoadPlainKey p env key) := by
  intro s e s' h
  rw [hsmSheLoadPlainKey_run] at h
  split at h <;> cases h
  exact Confined.refl s

theorem sheHandler_confinesOnError_of_eq {req : Request} (hr : req.errRegions = req.regions)
    (hn : req.errSlots p = req.slots p) :
    ConfinesOnError p req.errRegions (req.errSlots p) (sheHandler p env req) := by
  rw [hr, hn]
  exact confinesOnError_of_confines (sheHandler_confined p env req)

set_option maxRecDepth 600 in
theorem sheHandler_confinesOnError (req : Request) :
    ConfinesOnError p req.errRegions (req.errSlots p) (sheHandler p env req) := by
  cases req
  case loadPlainKey key => exact loadPlainKey_confinesOnError p env key
  all_goals
    first
    | exact sheHandler_confinesOnError_of_eq p env rfl rfl
    | simp only [sheHandler, hsmSheSetUid, hsmSheLoadKey, loadKeyDecrypt, loadKeyCheck,
        loadKeyWrite, loadKeyConfirm, hsmSheInitRnd, hsmSheRnd, hsmSheExtendSeed, cmacGenerate,
        aesMp16Into, readKeyOr, addObject, cacheKey]
  all_goals
    repeat
      first
      | with_reducible exact confinesOnError_modifyShe_pure _ _
      | with_reducible exact confinesOnError_doIf_pure _ _ _
      | with_reducible exact confinesOnError_orFail_writeKey_pure _ _ _ _ _
      | with_reducible refine confinesOnError_bind ?_ fun _ => ?_
      | with_reducible refine confines_bind ?_ fun _ => ?_
      | with_reducible refine confines_modifyShe fun _ => ?_
      | with_reducible refine confines_writeKey _ _ ?_
      | with_reducible exact confines_getShe
      | with_reducible exact confines_readKey _ _
      | with_reducible exact confines_call _
      | with_reducible exact confines_pure _
      | with_reducible exact confines_fail _
      | with_reducible exact confines_check _
      | with_reducible refine confines_doIf ?_
      | with_reducible refine confines_orFail _ ?_
      | with_reducible refine confines_ite ?_ ?_
      | split
      | rfl
      | exact List.mem_singleton_self _

theorem dispatch_confinedOnError {s : Server} {req : Request} {rc : Erc}
    (hsb : req.isSecureBoot = false) (h : (whServerHandleSheRequest p env s req).2 = .error rc) :
    Confined p req.errRegions (req.errSlots p) s (whServerHandleSheRequest p env s req).1 := by
  unfold whServerHandleSheRequest at h ⊢
  by_cases hg : gated s.she req = true
  · rw [if_pos hg]
    exact Confined.refl s
  · rw [if_neg hg] at h ⊢
    split at h
    · cases h
    · rename_i e s₁ hrun
      simp only [hrun, hsb, false_and, if_false]
      exact sheHandler_confinesOnError p env req s e s₁ hrun

namespace Request

variable {p} {req : Request}

theorem errRegions_of_not_secureBoot (hsb : req.isSecureBoot = false) :
    Region.uid ∉ req.errRegions ∧ Region.boot ∉ req.errRegions ∧
    Region.rndInited ∉ req.errRegions ∧ Region.ramKeyPlain ∉ req.errRegions ∧
    (Region.prngKey ∈ req.errRegions → req = .initRnd) ∧
    (Region.prngState ∈ req.errRegions → req = .initRnd ∨ ∃ e, req = .extendSeed e) := by
  cases req <;> simp_all [isSecureBoot, errRegions, regions]

theorem mem_errSlots {n : Nat} (h : n ∈ req.errSlots p) :
    (∃ m1 m2 m3, req = .loadKey m1 m2 m3 ∧ n = hsmShePopId m1) ∨
    (req = .initRnd ∧ n = p.prngSeedId) := by
  cases req <;> simp_all [errSlots, slots]

end Request

/-- What a failed request other than `SB_*` may change: only the PRNG fields of `INIT_RND` and
`EXTEND_SEED`, and the slots that `LOAD_KEY` and `INIT_RND` write. -/
structure FailureFootprint (p : Platform) (req : Request) (s s' : Server) : Prop where
  uid : s'.she.uid = s.she.uid ∧ s'.she.uidSet = s.she.uidSet
  boot : s'.she.sbState = s.she.sbState ∧ s'.she.blSize = s.she.blSize ∧
    s'.she.blSizeReceived = s.she.blSizeReceived ∧ s'.she.cmacKeyFound = s.she.cmacKeyFound
  rndInited : s'.she.rndInited = s.she.rndInited
  ramKeyPlain : s'.she.ramKeyPlain = s.she.ramKeyPlain
  prngKey : s'.she.prngKey ≠ s.she.prngKey → req = .initRnd
  prngState : s'.she.prngState ≠ s.she.prngState → req = .initRnd ∨ ∃ e, req = .extendSeed e
  keys : ∀ id, s'.keys id ≠ s.keys id →
    (∃ m1 m2 m3, req = .loadKey m1 m2 m3 ∧ id = sheKeyId p s.clientId (hsmShePopId m1)) ∨
    (req = .initRnd ∧ id = sheKeyId p s.clientId p.prngSeedId)

/-- A request other than `SB_*` answered with an error stays within its failure footprint. -/
theorem failed_request_footprint (s : Server) (req : Request) (rc : Erc)
    (hsb : req.isSecureBoot = false) (h : (whServerHandleSheRequest p env s req).2 = .error rc) :
    FailureFootprint p req s (whServerHandleSheRequest p env s req).1 := by
  have hc := dispatch_confinedOnError p env hsb h
  obtain ⟨hu, hb, hri, hps, hpk, hrk, -⟩ := hc.she_eq
  obtain ⟨nu, nb, nri, nrk, kpk, kps⟩ := Request.errRegions_of_not_secureBoot hsb
  refine ⟨hu nu, hb nb, hri nri, hrk nrk, fun hne => kpk (by_contra fun k => hne (hpk k)),
    fun hne => kps (by_contra fun k => hne (hps k)), fun id hne => ?_⟩
  obtain ⟨n, hn, rfl⟩ := hc.keys_changed hne
  rcases Request.mem_errSlots hn with ⟨m1, m2, m3, rfl, rfl⟩ | ⟨rfl, rfl⟩
  · exact .inl ⟨m1, m2, m3, rfl, rfl⟩
  · exact .inr ⟨rfl, rfl⟩

def Env.sampleFaultySlot5 : Env :=
  { Env.sample with readFault := fun id => if id = ⟨1, 0, 5⟩ then some (.code (-1)) else none }

/-- A `LOAD_KEY` whose target read fails replies `KEY_UPDATE_ERROR` and has written the target. -/
theorem failed_load_key_writes_target :
    let s := Server.sampleBooted (Platform.sample .big) Env.sampleFaultySlot5
    let r := whServerHandleSheRequest (Platform.sample .big) Env.sampleFaultySlot5 s
      (Request.sampleLoadKey (.replicate 15 7) 5 1 1 (.replicate 16 0x22))
    r.2 = .error .keyUpdateError ∧ r.1.keys ⟨1, 0, 5⟩ ≠ s.keys ⟨1, 0, 5⟩ := by
  decide

theorem failed_load_key_footprint :
    let s := Server.sampleBooted (Platform.sample .big) Env.sampleFaultySlot5
    let req := Request.sampleLoadKey (.replicate 15 7) 5 1 1 (.replicate 16 0x22)
    req.isSecureBoot = false ∧
      (whServerHandleSheRequest (Platform.sample .big) Env.sampleFaultySlot5 s req).2 =
        .error .keyUpdateError ∧
      FailureFootprint (Platform.sample .big) req s
        (whServerHandleSheRequest (Platform.sample .big) Env.sampleFaultySlot5 s req).1 :=
  ⟨rfl, by decide, failed_request_footprint _ _ _ _ .keyUpdateError rfl (by decide)⟩

end WolfHsmShe
