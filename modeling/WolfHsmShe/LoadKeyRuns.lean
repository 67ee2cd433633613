import WolfHsmShe.Failures

/-! # Runs of `LOAD_KEY`: write protection, counters and the RAM key -/

namespace WolfHsmShe

variable (p : Platform) (env : Env)

/-! ## Write protection -/

theorem sheKeyId_inj {p : Platform} {c a b : Nat} (h : sheKeyId p c a = sheKeyId p c b) : a = b := by
  simpa [sheKeyId] using h

theorem loadKeyDecrypt_confined (m1 : Buf 16) (m2 : Buf 32) (m3 : Block) :
    Confines p [.cmac] [] (loadKeyDecrypt p env m1 m2 m3) := by
  unfold loadKeyDecrypt cmacGenerate readKeyOr
  exact confines_bind (confines_orFail _ (confines_readKey _ _)) fun _ =>
    confines_bind (confines_call _) fun _ =>
    confines_bind (confines_bind (confines_modifyShe fun _ => rfl) fun _ => confines_call _)
      fun _ => confines_bind (confines_check _) fun _ =>
    confines_bind (confines_call _) fun _ => confines_call _

theorem hsmSheLoadKey_writeProtected {m1 : Buf 16} {m2 : Buf 32} {m3 : Block} {s : Server}
    {o : KeyObj} (hread : readResult env s.keys (sheKeyId p s.clientId (hsmShePopId m1)) = .ok o)
    (hwp : o.flags &&& p.flagWriteProtect ≠ 0) :
    (hsmSheLoadKey p env m1 m2 m3 s).2.keys = s.keys ∧
    ∀ plain s₁, loadKeyDecrypt p env m1 m2 m3 s = (.ok plain, s₁) →
      (hsmSheLoadKey p env m1 m2 m3 s).1 = .error (.erc .writeProtected) := by
  have hd := loadKeyDecrypt_confined p env m1 m2 m3 s
  have hkeys : (loadKeyDecrypt p env m1 m2 m3 s).2.keys = s.keys :=
    funext fun id => hd.keys id (by simp)
  unfold hsmSheLoadKey
  rcases h : loadKeyDecrypt p env m1 m2 m3 s with ⟨e | plain, s₁⟩ <;>
    simp only [h] at hd hkeys
  · simp [SheM.bind_run, h, hkeys]
  · simp only [ne_eq, BitVec.ofNat_eq_ofNat] at hwp
    simp [SheM.bind_run, h, loadKeyCheck, hkeys, hd.client, hread, isNotFound, targetMeta, hwp]

theorem dispatch_keys (s : Server) (req : Request) :
    (whServerHandleSheRequest p env s req).1.keys = s.keys ∨
      (whServerHandleSheRequest p env s req).1.keys = (sheHandler p env req s).2.keys := by
  unfold whServerHandleSheRequest
  split
  · exact .inl rfl
  · right
    split <;> simp_all

theorem dispatch_changes_slot {s : Server} {req : Request} {n : Nat}
    (hn : n ≠ p.ramKeyId ∧ n ≠ p.prngSeedId)
    (hne : (whServerHandleSheRequest p env s req).1.keys (sheKeyId p s.clientId n) ≠
      s.keys (sheKeyId p s.clientId n)) :
    ∃ m1 m2 m3, req = .loadKey m1 m2 m3 ∧ hsmShePopId m1 = n ∧
      (whServerHandleSheRequest p env s req).1.keys = (hsmSheLoadKey p env m1 m2 m3 s).2.keys := by
  obtain ⟨m, hm, hid⟩ := (dispatch_confined p env s req).keys_changed hne
  obtain rfl := sheKeyId_inj hid
  cases req <;> simp only [Request.slots, List.mem_singleton, List.not_mem_nil] at hm
  case loadKey m1 m2 m3 =>
    refine ⟨m1, m2, m3, rfl, hm.symm, ?_⟩
    rcases dispatch_keys p env s (.loadKey m1 m2 m3) with e | e
    · exact absurd (congrFun e _) hne
    · exact e
  all_goals first | exact absurd hm hn.1 | exact absurd hm hn.2

/-- Slot `n` of client `c`, not `RAM_KEY` or `PRNG_SEED`, holds the protected `o` and reads it. -/
structure WriteProtected (c n : Nat) (o : KeyObj) (s : Server) : Prop where
  client : s.clientId = c
  slot : n ≠ p.ramKeyId ∧ n ≠ p.prngSeedId
  read : readResult env s.keys (sheKeyId p c n) = .ok o
  flag : o.flags &&& p.flagWriteProtect ≠ 0

theorem writeProtected_step {c n : Nat} {o : KeyObj} {s : Server} (h : WriteProtected p env c n o s)
    (req : Request) : WriteProtected p env c n o (whServerHandleSheRequest p env s req).1 := by
  have hc := dispatch_confined p env s req
  refine ⟨hc.client.trans h.client, h.slot, ?_, h.flag⟩
  have hkeys : (whServerHandleSheRequest p env s req).1.keys (sheKeyId p c n) =
      s.keys (sheKeyId p c n) := by
    by_contra hne
    rw [← h.client] at hne
    obtain ⟨m1, m2, m3, rfl, hid, e⟩ := dispatch_changes_slot p env h.slot hne
    have hr : readResult env s.keys (sheKeyId p s.clientId (hsmShePopId m1)) = .ok o := by
      rw [hid, h.client]
      exact h.read
    rw [e, (hsmSheLoadKey_writeProtected p env hr h.flag).1] at hne
    exact hne rfl
  simpa [readResult, hkeys] using h.read

theorem dispatch_loadKey_writeProtected {c n : Nat} {o : KeyObj} {s : Server}
    (h : WriteProtected p env c n o s) {m1 : Buf 16} {m2 : Buf 32} {m3 : Block} {plain : Buf 32}
    {s₁ : Server} (hid : hsmShePopId m1 = n) (hg : gated s.she (.loadKey m1 m2 m3) = false)
    (hdec : loadKeyDecrypt p env m1 m2 m3 s = (.ok plain, s₁)) :
    (whServerHandleSheRequest p env s (.loadKey m1 m2 m3)).2 = .error .writeProtected := by
  have hr : readResult env s.keys (sheKeyId p s.clientId (hsmShePopId m1)) = .ok o := by
    rw [h.client, hid]; exact h.read
  have hh := (hsmSheLoadKey_writeProtected p env hr h.flag).2 plain s₁ hdec
  rcases hrun : hsmSheLoadKey p env m1 m2 m3 s with ⟨r, s'⟩
  rw [hrun] at hh
  cases hh
  simp [whServerHandleSheRequest, hg, sheHandler, hrun, replyErc, sheStandardErcs]

/-- Over any run, a write-protected slot that reads without fault keeps its object, and every
`LOAD_KEY` of it past the gate and the MAC check is refused with `WRITE_PROTECTED`. -/
theorem write_protect_kept_on_runs {c n : Nat} {o : KeyObj} {s : Server}
    (h : WriteProtected p env c n o s) (reqs : List Request) :
    ∀ st ∈ trace p env s reqs, st.post.keys (sheKeyId p c n) = some o ∧
      ∀ m1 m2 m3 plain s₁, st.req = .loadKey m1 m2 m3 → hsmShePopId m1 = n →
        gated st.pre.she st.req = false →
        loadKeyDecrypt p env m1 m2 m3 st.pre = (.ok plain, s₁) →
        st.reply = .error .writeProtected := by
  intro st hst
  have ⟨hpre, hrun⟩ := trace_inv p env (I := WriteProtected p env c n o)
    (fun _ req h => writeProtected_step p env h req) h hst
  refine ⟨?_, fun m1 m2 m3 plain s₁ hreq hid hg hdec => ?_⟩
  · have := writeProtected_step p env hpre st.req
    rw [hrun] at this
    exact (readResult_eq_ok env this.read).2
  · rw [hreq] at hrun hg
    have := dispatch_loadKey_writeProtected p env hpre hid hg hdec
    rwa [hrun] at this

def sampleProtectedKeys : KeyStore := fun id =>
  if id = ⟨1, 0, 0⟩ then some ⟨0, 0, .replicate 16 0x44⟩
  else if id = ⟨1, 0, 5⟩ ∨ id = ⟨1, 0, 15⟩ then some ⟨0x80, 0, .replicate 16 0x33⟩ else none

theorem write_protect_kept_sample :
    let p := Platform.sample .big
    let reqs := [.setUid (.replicate 15 7), .secureBootInit 0, .initRnd,
      Request.sampleLoadKey (.replicate 15 7) 5 0 2 (.replicate 16 0x22)]
    (trace p Env.sample (Server.start 0 sampleProtectedKeys) reqs).map Step.reply =
        [.ok .setUid, .error .noSecureBoot, .ok .initRnd, .error .writeProtected] ∧
      WriteProtected p Env.sample 0 5 ⟨0x80, 0, .replicate 16 0x33⟩
        (Server.start 0 sampleProtectedKeys) ∧
      ∀ st ∈ trace p Env.sample (Server.start 0 sampleProtectedKeys) reqs,
        st.post.keys (sheKeyId p 0 5) = some ⟨0x80, 0, .replicate 16 0x33⟩ ∧
        ∀ m1 m2 m3 plain s₁, st.req = .loadKey m1 m2 m3 → hsmShePopId m1 = 5 →
          gated st.pre.she st.req = false →
          loadKeyDecrypt p Env.sample m1 m2 m3 st.pre = (.ok plain, s₁) →
          st.reply = .error .writeProtected :=
  have h : WriteProtected (Platform.sample .big) Env.sample 0 5 ⟨0x80, 0, .replicate 16 0x33⟩
      (Server.start 0 sampleProtectedKeys) := ⟨rfl, by decide, rfl, by decide⟩
  ⟨by decide, h, write_protect_kept_on_runs _ _ h _⟩

/-- `EXTEND_SEED` replaces a write-protected `PRNG_SEED`. -/
example :
    let p := Platform.sample .big
    let s := run p Env.sample (Server.start 0 sampleProtectedKeys)
      [.setUid (.replicate 15 7), .secureBootInit 0, .initRnd]
    let r := whServerHandleSheRequest p Env.sample s (.extendSeed (.replicate 16 0x55))
    s.keys ⟨1, 0, 15⟩ = some ⟨0x80, 0, .replicate 16 0x33⟩ ∧ r.2 = .ok .extendSeed ∧
      r.1.keys ⟨1, 0, 15⟩ = some ⟨0x80, 0, zeroBlock⟩ := by
  decide

def Env.sampleFaultySlot : Env :=
  { Env.sample with readFault := fun id => if id = ⟨1, 0, 5⟩ then some (.code (-1)) else none }

def Server.sampleProtectedBooted : Server :=
  run (Platform.sample .big) Env.sampleFaultySlot (Server.start 0 sampleProtectedKeys)
    [.setUid (.replicate 15 7), .secureBootInit 0]

/-- A `LOAD_KEY` of a write-protected slot whose read fails with an NVM error replaces the key. -/
theorem load_key_overwrites_protected_on_read_fault :
    Server.sampleProtectedBooted.keys ⟨1, 0, 5⟩ = some ⟨0x80, 0, .replicate 16 0x33⟩ ∧
      readResult Env.sampleFaultySlot Server.sampleProtectedBooted.keys ⟨1, 0, 5⟩ =
        .error (.code (-1)) ∧
      (whServerHandleSheRequest (Platform.sample .big) Env.sampleFaultySlot
          Server.sampleProtectedBooted
          (Request.sampleLoadKey (.replicate 15 7) 5 0 2 (.replicate 16 0x22))).1.keys ⟨1, 0, 5⟩ =
        some ⟨0, 2, .replicate 16 0x22⟩ ∧
      (whServerHandleSheRequest (Platform.sample .big) Env.sampleFaultySlot
          Server.sampleProtectedBooted
          (Request.sampleLoadKey (.replicate 15 7) 5 0 2 (.replicate 16 0x22))).2 =
        .error .keyUpdateError :=
  ⟨by decide, rfl, by decide, by decide⟩

/-! ## The steps of `LOAD_KEY` -/

theorem loadKeyCheck_confined (m1 : Buf 16) (plain : Buf 32) :
    Confines p [] [] (loadKeyCheck p env m1 plain) := by
  unfold loadKeyCheck
  exact confines_bind (confines_readKey _ _) fun _ => confines_bind (confines_check _) fun _ =>
    confines_bind confines_getShe fun _ => confines_bind (confines_check _) fun _ =>
    confines_check _

theorem loadKeyWrite_confined (m1 : Buf 16) (plain : Buf 32) :
    Confines p [] [hsmShePopId m1] (loadKeyWrite p env m1 plain) := by
  unfold loadKeyWrite addObject cacheKey readKeyOr
  dsimp only
  split
  · exact confines_bind (confines_orFail _ (confines_writeKey _ _ (List.mem_singleton_self _)))
      fun _ => confines_pure _
  · exact confines_bind (confines_orFail _ (confines_writeKey _ _ (List.mem_singleton_self _)))
      fun _ => confines_orFail _ (confines_readKey _ _)

theorem loadKeyCheck_state (m1 : Buf 16) (plain : Buf 32) (s : Server) :
    (loadKeyCheck p env m1 plain s).2 = s := by
  simp only [loadKeyCheck, readKey_bind_run, check_bind_run, getShe_bind_run, check_run]
  split_ifs <;> rfl

/-- The object `LOAD_KEY` writes: the flags, the counter and the key of the decrypted `M2`. -/
def loadKeyObj (p : Platform) (plain : Buf 32) : KeyObj :=
  ⟨hsmShePopFlags plain, m2Counter p.endian plain >>> 4, slice plain 16 16⟩

theorem loadKeyWrite_keys (m1 : Buf 16) (plain : Buf 32) (s : Server) :
    (loadKeyWrite p env m1 plain s).2.keys = s.keys ∨
      (loadKeyWrite p env m1 plain s).2.keys = Function.update s.keys
        (sheKeyId p s.clientId (hsmShePopId m1)) (some (loadKeyObj p plain)) := by
  unfold loadKeyWrite cacheKey addObject
  split_ifs
  · cases h : env.cacheFault (sheKeyId p s.clientId (hsmShePopId m1)) <;>
      simp [orFail_writeKey_bind_run, h, loadKeyObj]
  · cases h : env.addFault (sheKeyId p s.clientId (hsmShePopId m1)) <;>
      simp [orFail_writeKey_bind_run, h, loadKeyObj]

theorem loadKeyConfirm_keys (m1 : Buf 16) (plain : Buf 32) (o : KeyObj) (s : Server) :
    (loadKeyConfirm p env m1 plain o s).2.keys = s.keys := by
  have h : Confines p [.cmac, .ramKeyPlain] [] (loadKeyConfirm p env m1 plain o) := by
    unfold loadKeyConfirm cmacGenerate
    simp only [bind_assoc]
    exact confines_bind (confines_call _) fun _ => confines_bind (confines_call _) fun _ =>
      confines_bind (confines_call _) fun _ => confines_bind confines_getShe fun _ =>
      confines_bind (confines_call _) fun _ =>
      confines_bind (confines_modifyShe fun _ => rfl) fun _ =>
      confines_bind (confines_call _) fun _ =>
      confines_bind (confines_doIf (confines_modifyShe fun _ => rfl)) fun _ => confines_pure _
  exact funext fun id => (h s).keys id (by simp)

theorem hsmSheLoadKey_keys (m1 : Buf 16) (m2 : Buf 32) (m3 : Block) (s : Server) :
    (hsmSheLoadKey p env m1 m2 m3 s).2.keys = s.keys ∨
      ∃ plain s₁, loadKeyDecrypt p env m1 m2 m3 s = (.ok plain, s₁) ∧
        loadKeyCheck p env m1 plain s₁ = (.ok (), s₁) ∧
        (hsmSheLoadKey p env m1 m2 m3 s).2.keys = Function.update s.keys
          (sheKeyId p s.clientId (hsmShePopId m1)) (some (loadKeyObj p plain)) := by
  have hd := loadKeyDecrypt_confined p env m1 m2 m3 s
  unfold hsmSheLoadKey
  rw [SheM.bind_run]
  rcases h₁ : loadKeyDecrypt p env m1 m2 m3 s with ⟨e | plain, s₁⟩ <;> rw [h₁] at hd
  · exact .inl (funext fun id => hd.keys id (by simp))
  have hk : s₁.keys = s.keys := funext fun id => hd.keys id (by simp)
  have hs := loadKeyCheck_state p env m1 plain s₁
  dsimp only
  rw [SheM.bind_run]
  rcases h₂ : loadKeyCheck p env m1 plain s₁ with ⟨e | u, s₂⟩ <;> rw [h₂] at hs <;>
    dsimp only at hs <;> subst hs
  · exact .inl hk
  dsimp only
  rw [SheM.bind_run]
  have hw := loadKeyWrite_keys p env m1 plain s₂
  rw [hk, hd.client] at hw
  rcases h₃ : loadKeyWrite p env m1 plain s₂ with ⟨e | o, s₃⟩ <;> rw [h₃] at hw <;>
    dsimp only at hw ⊢
  all_goals first | rw [loadKeyConfirm_keys] | skip
  all_goals
    rcases hw with hw | hw
    · exact .inl hw
    · exact .inr ⟨plain, s₂, rfl, h₂, hw⟩

/-! ## The counter -/

def sampleRollbackLoads : List Request :=
  [Request.sampleLoadKey (.replicate 15 7) 5 1 0x100000 (.replicate 16 0x22),
    Request.sampleLoadKey (.replicate 15 7) 5 1 1 (.replicate 16 0x33)]

/-- On a little-endian host a slot's counter goes back from `0x100000` to `1`. -/
theorem load_key_counter_rollback_le :
    (trace (Platform.sample .little) Env.sample
        (Server.sampleBooted (Platform.sample .little) Env.sample) sampleRollbackLoads).map
        (fun st => st.reply matches .ok _) = [true, true] ∧
      (run (Platform.sample .little) Env.sample
        (Server.sampleBooted (Platform.sample .little) Env.sample) sampleRollbackLoads).keys
        ⟨1, 0, 5⟩ = some ⟨0, 0x1000000, .replicate 16 0x33⟩ ∧
      (trace (Platform.sample .big) Env.sample
        (Server.sampleBooted (Platform.sample .big) Env.sample) sampleRollbackLoads).map
        (fun st => st.reply matches .ok _) = [true, false] := by
  decide

theorem loadKeyConfirm_confined {m1 : Buf 16} (h : hsmShePopId m1 ≠ p.ramKeyId) (plain : Buf 32)
    (o : KeyObj) : Confines p [.cmac] [] (loadKeyConfirm p env m1 plain o) := by
  unfold loadKeyConfirm cmacGenerate
  simp only [doIf, if_neg h, bind_assoc]
  exact confines_bind (confines_call _) fun _ => confines_bind (confines_call _) fun _ =>
    confines_bind (confines_call _) fun _ => confines_bind confines_getShe fun _ =>
    confines_bind (confines_call _) fun _ =>
    confines_bind (confines_modifyShe fun _ => rfl) fun _ =>
    confines_bind (confines_call _) fun _ => confines_bind (confines_pure _) fun _ =>
    confines_pure _

theorem hsmSheLoadKey_confined_of_ne {m1 : Buf 16} (h : hsmShePopId m1 ≠ p.ramKeyId) (m2 : Buf 32)
    (m3 : Block) : Confines p [.cmac] [hsmShePopId m1] (hsmSheLoadKey p env m1 m2 m3) := by
  unfold hsmSheLoadKey
  exact confines_bind ((loadKeyDecrypt_confined p env m1 m2 m3).mono (by simp) (by simp)) fun plain =>
    confines_bind ((loadKeyCheck_confined p env m1 plain).mono (by simp) (by simp)) fun _ =>
    confines_bind ((loadKeyWrite_confined p env m1 plain).mono (by simp) (by simp)) fun o =>
    (loadKeyConfirm_confined p env h plain o).mono (by simp) (by simp)

theorem ramKeyPlain_rises {s : Server} {req : Request} (h0 : s.she.ramKeyPlain = false)
    (h1 : (whServerHandleSheRequest p env s req).1.she.ramKeyPlain = true) :
    ((∃ k, req = .loadPlainKey k) ∨
      ∃ m1 m2 m3, req = .loadKey m1 m2 m3 ∧ hsmShePopId m1 = p.ramKeyId) ∧
      ∃ r, (whServerHandleSheRequest p env s req).2 = .ok r := by
  have hne : (whServerHandleSheRequest p env s req).1.she.ramKeyPlain ≠ s.she.ramKeyPlain := by
    simp [h0, h1]
  have hmem : Region.ramKeyPlain ∈ req.regions := by
    by_contra hm
    exact hne ((dispatch_confined p env s req).ramKeyPlain_eq hm)
  have hsb : req.isSecureBoot = false := by
    cases req <;> simp_all [Request.regions, Request.isSecureBoot]
  refine ⟨?_, ?_⟩
  · cases req <;> simp only [Request.regions, List.mem_singleton, List.mem_cons,
      List.not_mem_nil, reduceCtorEq, or_false, or_true] at hmem
    case loadPlainKey k => exact .inl ⟨k, rfl⟩
    case loadKey m1 m2 m3 =>
      refine .inr ⟨m1, m2, m3, rfl, by_contra fun hid => hne ?_⟩
      rcases dispatch_post p env s (.loadKey m1 m2 m3) rfl with e | e <;> rw [e]
      exact (hsmSheLoadKey_confined_of_ne p env hid m2 m3 s).ramKeyPlain_eq (by simp)
  · rcases hr : (whServerHandleSheRequest p env s req).2 with r | rc
    · exact ⟨r, rfl⟩
    · exact absurd ((dispatch_confinedOnError p env hsb hr).ramKeyPlain_eq
        (Request.errRegions_of_not_secureBoot hsb).2.2.2.1) hne

/-- From `ramKeyPlain = 0`, a successful `EXPORT_RAM_KEY` follows a successful load of `RAM_KEY`. -/
theorem export_preceded_by_ram_key_load (s : Server) (reqs : List Request)
    (h0 : s.she.ramKeyPlain = false) {r : Resp}
    (hexp : (whServerHandleSheRequest p env (run p env s reqs) .exportRamKey).2 = .ok r) :
    ∃ st ∈ trace p env s reqs, ((∃ k, st.req = .loadPlainKey k) ∨
      ∃ m1 m2 m3, st.req = .loadKey m1 m2 m3 ∧ hsmShePopId m1 = p.ramKeyId) ∧
      ∃ r, st.reply = .ok r := by
  have hplain : (run p env s reqs).she.ramKeyPlain = true := by
    have := (handler_of_dispatch_ok p env hexp).2
    by_contra hf
    simp [sheHandler, hsmSheExportRamKey, hf] at this
  induction reqs generalizing s with
  | nil => simp_all [run]
  | cons req reqs ih =>
    by_cases h1 : (whServerHandleSheRequest p env s req).1.she.ramKeyPlain = true
    · exact ⟨_, List.mem_cons_self _ _, ramKeyPlain_rises p env h0 h1⟩
    · obtain ⟨st, hst, hh⟩ := ih _ (by simpa using h1) hexp hplain
      exact ⟨st, List.mem_cons_of_mem _ hst, hh⟩

theorem export_preceded_by_load_key_sample :
    (Server.sampleBooted (Platform.sample .big) Env.sample).she.ramKeyPlain = false ∧
      ∃ st ∈ trace (Platform.sample .big) Env.sample
        (Server.sampleBooted (Platform.sample .big) Env.sample)
        [Request.sampleLoadKey (.replicate 15 7) 14 1 1 (.replicate 16 0x22)],
        ((∃ k, st.req = .loadPlainKey k) ∨ ∃ m1 m2 m3, st.req = .loadKey m1 m2 m3 ∧
          hsmShePopId m1 = (Platform.sample .big).ramKeyId) ∧ ∃ r, st.reply = .ok r := by
  have hexp : (whServerHandleSheRequest (Platform.sample .big) Env.sample
      (run (Platform.sample .big) Env.sample (Server.sampleBooted (Platform.sample .big) Env.sample)
        [Request.sampleLoadKey (.replicate 15 7) 14 1 1 (.replicate 16 0x22)]) .exportRamKey).2 =
      .ok (.exportRamKey ⟨(Mathlib.Vector.replicate 15 7).toList ++
          [exportIds (Platform.sample .big)], by decide⟩
        (exportPlain (Platform.sample .big) (.replicate 16 0x22)) zeroBlock
        (sheM4 (.replicate 15 7) (exportIds (Platform.sample .big))
          (counterBlock .big (ntohl .big 1 <<< 4) (.replicate 12 0))) zeroBlock) := by
    decide
  exact ⟨by decide, export_preceded_by_ram_key_load _ _ _ _ (by decide) hexp⟩

theorem export_after_load_key :
    (Server.sampleBooted (Platform.sample .big) Env.sample).she.ramKeyPlain = false ∧
      (trace (Platform.sample .big) Env.sample (Server.sampleBooted (Platform.sample .big) Env.sample)
        [Request.sampleLoadKey (.replicate 15 7) 14 1 1 (.replicate 16 0x22), .exportRamKey]).map
        (fun st => st.reply matches .ok _) = [true, true] := by
  decide

end WolfHsmShe
