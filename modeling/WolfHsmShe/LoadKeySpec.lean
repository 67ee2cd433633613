import WolfHsmShe.LoadKeyRuns

/-!
# What a successful `LOAD_KEY` has checked, and what it answers

One spec lemma per step of `hsmSheLoadKey`, then the handler.
-/

namespace WolfHsmShe

variable (p : Platform) (env : Env)

/-! ## The steps -/

theorem loadKeyDecrypt_ok {m1 : Buf 16} {m2 : Buf 32} {m3 : Block} {s s' : Server}
    {plain : Buf 32} (h : loadKeyDecrypt p env m1 m2 m3 s = (.ok plain, s')) :
    ∃ auth k2 k1, readResult env s.keys (sheKeyId p s.clientId (hsmShePopAuthId m1)) = .ok auth ∧
      aesMp16 env (auth.key.toList ++ sheKeyUpdateMacC) = .ok k2 ∧
      env.cmac k2 (m1.toList ++ m2.toList) = .ok m3 ∧
      aesMp16 env (auth.key.toList ++ sheKeyUpdateEncC) = .ok k1 ∧
      env.cbcDecrypt k1 zeroBlock 32 m2 = .ok plain ∧
      s' = { s with she := { s.she with sheCmac := ⟨k2, m1.toList ++ m2.toList⟩ } } := by
  simp only [loadKeyDecrypt, bind_assoc, readKeyOr_bind_run, call_bind_run,
    cmacGenerate_bind_run, check_bind_run, call_run] at h
  rcases h1 : readResult env s.keys (sheKeyId p s.clientId (hsmShePopAuthId m1)) with _ | auth <;>
    simp only [h1] at h
  · cases h
  rcases h2 : aesMp16 env (auth.key.toList ++ sheKeyUpdateMacC) with _ | k2 <;> simp only [h2] at h
  · cases h
  rcases h3 : env.cmac k2 (m1.toList ++ m2.toList) with _ | mac <;> simp only [h3] at h
  · cases h
  split_ifs at h with hm
  · cases h
  rcases h4 : aesMp16 env (auth.key.toList ++ sheKeyUpdateEncC) with _ | k1 <;>
    simp only [h4] at h
  · cases h
  rcases h5 : env.cbcDecrypt k1 zeroBlock 32 m2 with _ | plain' <;> simp only [h5] at h
  · cases h
  simp only [Prod.mk.injEq, Except.ok.injEq] at h
  obtain ⟨rfl, rfl⟩ := h
  exact ⟨auth, k2, k1, rfl, h2, by rw [h3, not_not.1 hm], h4, h5, rfl⟩

theorem loadKeyCheck_ok {m1 : Buf 16} {plain : Buf 32} {s s' : Server}
    (h : loadKeyCheck p env m1 plain s = (.ok (), s')) :
    s' = s ∧ (slice m1 0 15 = s.she.uid ∨ slice m1 0 15 = .replicate 15 0 ∧
      ∃ o, readResult env s.keys (sheKeyId p s.clientId (hsmShePopId m1)) = .ok o ∧
        o.flags &&& p.flagWildcard ≠ 0) := by
  have hs := loadKeyCheck_state p env m1 plain s
  rw [h] at hs
  refine ⟨hs, ?_⟩
  simp only [loadKeyCheck, readKey_bind_run, check_bind_run, getShe_bind_run, check_run] at h
  split_ifs at h with _ hu
  all_goals try cases h
  unfold uidRejected at hu
  split_ifs at hu with hz
  · rcases hr : readResult env s.keys (sheKeyId p s.clientId (hsmShePopId m1)) with _ | o <;>
      simp only [hr, targetMeta] at hu
    · exact absurd BitVec.zero_and hu
    · exact .inr ⟨hz, o, rfl, hu⟩
  · exact .inl (not_not.1 hu)

theorem loadKeyWrite_ok {m1 : Buf 16} {plain : Buf 32} {s s' : Server} {o : KeyObj}
    (h : loadKeyWrite p env m1 plain s = (.ok o, s')) :
    o = loadKeyObj p plain ∧
      s' = { s with
        keys := Function.update s.keys (sheKeyId p s.clientId (hsmShePopId m1))
          (some (loadKeyObj p plain)) } := by
  unfold loadKeyWrite cacheKey addObject at h
  split_ifs at h
  · rcases hf : env.cacheFault (sheKeyId p s.clientId (hsmShePopId m1)) with _ | e <;>
      simp only [orFail_writeKey_bind_run, hf, SheM.pure_run, Prod.mk.injEq, Except.ok.injEq,
        reduceCtorEq, false_and] at h
    exact ⟨h.1.symm, h.2.symm⟩
  · rcases hf : env.addFault (sheKeyId p s.clientId (hsmShePopId m1)) with _ | e <;>
      simp only [orFail_writeKey_bind_run, hf, Prod.mk.injEq, reduceCtorEq, false_and] at h
    simp only [readKeyOr, orFail, SheM.bind_run, readKey_run, readResult,
      Function.update_same] at h
    rcases hr : env.readFault (sheKeyId p s.clientId (hsmShePopId m1)) with _ | e <;>
      simp only [hr, SheM.pure_run, fail_run, Prod.mk.injEq, Except.ok.injEq, reduceCtorEq,
        false_and] at h
    exact ⟨h.1.symm, h.2.symm⟩

theorem loadKeyConfirm_ok {m1 : Buf 16} {plain : Buf 32} {o : KeyObj} {s s' : Server} {r : Resp}
    (h : loadKeyConfirm p env m1 plain o s = (.ok r, s')) :
    ∃ k3 c k4 m5, aesMp16 env (o.key.toList ++ sheKeyUpdateEncC) = .ok k3 ∧
      env.aesSetKey k3 = .ok () ∧
      env.aesEncrypt k3 (counterBlock p.endian (o.count <<< 4) (slice plain 4 12)) = .ok c ∧
      aesMp16 env (o.key.toList ++ sheKeyUpdateMacC) = .ok k4 ∧
      env.cmac k4 (sheM4 s.she.uid (m1.get 15) c).toList = .ok m5 ∧
      r = .loadKey (sheM4 s.she.uid (m1.get 15) c) m5 ∧
      s' = { s with
        she := { s.she with
          sheCmac := ⟨k4, (sheM4 s.she.uid (m1.get 15) c).toList⟩
          ramKeyPlain := decide (hsmShePopId m1 = p.ramKeyId) || s.she.ramKeyPlain } } := by
  simp only [loadKeyConfirm, bind_assoc, call_bind_run, getShe_bind_run, cmacGenerate_bind_run,
    doIf_bind_run, modifyShe_bind_run, SheM.pure_run] at h
  rcases h1 : aesMp16 env (o.key.toList ++ sheKeyUpdateEncC) with _ | k3 <;> simp only [h1] at h
  · cases h
  rcases h2 : env.aesSetKey k3 with _ | ⟨⟩ <;> simp only [h2] at h
  · cases h
  rcases h3 : env.aesEncrypt k3 (counterBlock p.endian (o.count <<< 4) (slice plain 4 12))
    with _ | c <;> simp only [h3] at h
  · cases h
  rcases h4 : aesMp16 env (o.key.toList ++ sheKeyUpdateMacC) with _ | k4 <;> simp only [h4] at h
  · cases h
  rcases h5 : env.cmac k4 (sheM4 s.she.uid (m1.get 15) c).toList with _ | m5 <;>
    simp only [h5] at h
  · cases h
  refine ⟨k3, c, k4, m5, rfl, h2, h3, rfl, h5, ?_⟩
  split_ifs at h with hid <;> simp only [SheM.pure_run, Prod.mk.injEq, Except.ok.injEq] at h <;>
    obtain ⟨rfl, rfl⟩ := h <;> simp [hid]

/-! ## The handler -/

theorem hsmSheLoadKey_ok {m1 : Buf 16} {m2 : Buf 32} {m3 : Block} {s s' : Server} {r : Resp}
    (h : hsmSheLoadKey p env m1 m2 m3 s = (.ok r, s')) :
    ∃ plain s₁ s₂, loadKeyDecrypt p env m1 m2 m3 s = (.ok plain, s₁) ∧
      loadKeyCheck p env m1 plain s₁ = (.ok (), s₁) ∧
      loadKeyWrite p env m1 plain s₁ = (.ok (loadKeyObj p plain), s₂) ∧
      loadKeyConfirm p env m1 plain (loadKeyObj p plain) s₂ = (.ok r, s') := by
  obtain ⟨plain, s₁, h₁, hc⟩ := SheM.bind_eq_ok h
  obtain ⟨_, s₁', h₂, hw⟩ := SheM.bind_eq_ok hc
  obtain rfl := (loadKeyCheck_ok p env h₂).1
  obtain ⟨o, s₂, h₃, h₄⟩ := SheM.bind_eq_ok hw
  obtain rfl := (loadKeyWrite_ok p env h₃).1
  exact ⟨plain, _, s₂, h₁, h₂, h₃, h₄⟩

/-- A `LOAD_KEY` answered `NO_ERROR` found `M3` to be the CMAC of `M1 ‖ M2` under `K2` of its
`AUTHID` key, decrypted `M2` under `K1`, and passed the UID check. -/
theorem load_key_authentic {s : Server} {m1 : Buf 16} {m2 : Buf 32} {m3 : Block} {r : Resp}
    (h : (whServerHandleSheRequest p env s (.loadKey m1 m2 m3)).2 = .ok r) :
    ∃ auth k2 k1 plain, s.keys (sheKeyId p s.clientId (hsmShePopAuthId m1)) = some auth ∧
      aesMp16 env (auth.key.toList ++ sheKeyUpdateMacC) = .ok k2 ∧
      aesMp16 env (auth.key.toList ++ sheKeyUpdateEncC) = .ok k1 ∧
      env.cbcDecrypt k1 zeroBlock 32 m2 = .ok plain ∧
      env.cmac k2 (m1.toList ++ m2.toList) = .ok m3 ∧
      (slice m1 0 15 = s.she.uid ∨ slice m1 0 15 = .replicate 15 0 ∧
        ∃ o, s.keys (sheKeyId p s.clientId (hsmShePopId m1)) = some o ∧
          o.flags &&& p.flagWildcard ≠ 0) ∧
      (whServerHandleSheRequest p env s (.loadKey m1 m2 m3)).1.keys =
        Function.update s.keys (sheKeyId p s.clientId (hsmShePopId m1))
          (some ⟨hsmShePopFlags plain, m2Counter p.endian plain >>> 4, slice plain 16 16⟩) ∧
      ((whServerHandleSheRequest p env s (.loadKey m1 m2 m3)).1.she.ramKeyPlain ≠
        s.she.ramKeyPlain → hsmShePopId m1 = p.ramKeyId) := by
  obtain ⟨-, hh⟩ := handler_of_dispatch_ok p env h
  obtain ⟨plain, s₁, s₂, h₁, h₂, h₃, h₄⟩ := hsmSheLoadKey_ok p env hh
  obtain ⟨auth, k2, k1, hr, hk2, hmac, hk1, hdec, rfl⟩ := loadKeyDecrypt_ok p env h₁
  obtain ⟨-, hu⟩ := loadKeyCheck_ok p env h₂
  obtain ⟨-, rfl⟩ := loadKeyWrite_ok p env h₃
  obtain ⟨_, _, _, _, -, -, -, -, -, -, hpost⟩ := loadKeyConfirm_ok p env h₄
  refine ⟨auth, k2, k1, plain, (readResult_eq_ok env hr).2, hk2, hk1, hdec, hmac, ?_, ?_, ?_⟩
  · rcases hu with hu | ⟨hz, o, ho, hw⟩
    · exact .inl hu
    · exact .inr ⟨hz, o, (readResult_eq_ok env ho).2, hw⟩
  · rw [hpost]
    rfl
  · rw [hpost]
    intro hne
    by_contra hid
    simp [hid] at hne

def sampleM1 : Buf 16 := ⟨List.replicate 15 7 ++ [0x41], by decide⟩

def sampleM2 : Buf 32 :=
  ⟨store32 .big 0x10 ++ List.replicate 12 0 ++ List.replicate 16 0x33, by simp⟩

theorem load_key_authentic_sample :
    let p := Platform.sample .big
    let s := Server.sampleBooted p Env.sample
    (whServerHandleSheRequest p Env.sample s (.loadKey sampleM1 sampleM2 zeroBlock)).2 =
        .ok (.loadKey (sheM4 (.replicate 15 7) 0x41 (counterBlock .big 0x10 (.replicate 12 0)))
          zeroBlock) ∧
      ∃ auth k2 k1 plain, s.keys (sheKeyId p s.clientId (hsmShePopAuthId sampleM1)) = some auth ∧
        aesMp16 Env.sample (auth.key.toList ++ sheKeyUpdateMacC) = .ok k2 ∧
        aesMp16 Env.sample (auth.key.toList ++ sheKeyUpdateEncC) = .ok k1 ∧
        Env.sample.cbcDecrypt k1 zeroBlock 32 sampleM2 = .ok plain ∧
        Env.sample.cmac k2 (sampleM1.toList ++ sampleM2.toList) = .ok zeroBlock ∧
        (slice sampleM1 0 15 = s.she.uid ∨ slice sampleM1 0 15 = .replicate 15 0 ∧
          ∃ o, s.keys (sheKeyId p s.clientId (hsmShePopId sampleM1)) = some o ∧
            o.flags &&& p.flagWildcard ≠ 0) ∧
        (whServerHandleSheRequest p Env.sample s (.loadKey sampleM1 sampleM2 zeroBlock)).1.keys =
          Function.update s.keys (sheKeyId p s.clientId (hsmShePopId sampleM1))
            (some ⟨hsmShePopFlags plain, m2Counter p.endian plain >>> 4, slice plain 16 16⟩) ∧
        ((whServerHandleSheRequest p Env.sample s
            (.loadKey sampleM1 sampleM2 zeroBlock)).1.she.ramKeyPlain ≠
          s.she.ramKeyPlain → hsmShePopId sampleM1 = p.ramKeyId) :=
  have h : (whServerHandleSheRequest (Platform.sample .big) Env.sample
      (Server.sampleBooted (Platform.sample .big) Env.sample)
      (.loadKey sampleM1 sampleM2 zeroBlock)).2 =
      .ok (.loadKey (sheM4 (.replicate 15 7) 0x41 (counterBlock .big 0x10 (.replicate 12 0)))
        zeroBlock) := by decide
  ⟨h, load_key_authentic _ _ h⟩

theorem load_key_reply {s : Server} {m1 : Buf 16} {m2 : Buf 32} {m3 : Block} {r : Resp}
    (h : (whServerHandleSheRequest p env s (.loadKey m1 m2 m3)).2 = .ok r) :
    ∃ auth k1 plain k3 c k4 m5, s.keys (sheKeyId p s.clientId (hsmShePopAuthId m1)) = some auth ∧
      aesMp16 env (auth.key.toList ++ sheKeyUpdateEncC) = .ok k1 ∧
      env.cbcDecrypt k1 zeroBlock 32 m2 = .ok plain ∧
      aesMp16 env ((slice plain 16 16).toList ++ sheKeyUpdateEncC) = .ok k3 ∧
      env.aesEncrypt k3 (counterBlock p.endian ((m2Counter p.endian plain >>> 4) <<< 4)
        (slice plain 4 12)) = .ok c ∧
      aesMp16 env ((slice plain 16 16).toList ++ sheKeyUpdateMacC) = .ok k4 ∧
      env.cmac k4 (sheM4 s.she.uid (m1.get 15) c).toList = .ok m5 ∧
      r = .loadKey (sheM4 s.she.uid (m1.get 15) c) m5 := by
  obtain ⟨-, hh⟩ := handler_of_dispatch_ok p env h
  obtain ⟨plain, s₁, s₂, h₁, -, h₃, h₄⟩ := hsmSheLoadKey_ok p env hh
  obtain ⟨auth, _, k1, hr, -, -, hk1, hdec, rfl⟩ := loadKeyDecrypt_ok p env h₁
  obtain ⟨-, rfl⟩ := loadKeyWrite_ok p env h₃
  obtain ⟨k3, c, k4, m5, hk3, -, hc, hk4, hm5, hr', -⟩ := loadKeyConfirm_ok p env h₄
  exact ⟨auth, k1, plain, k3, c, k4, m5, (readResult_eq_ok env hr).2, hk1, hdec, hk3, hc, hk4,
    hm5, hr'⟩

/-! ## The confirmation messages of the SHE specification -/

/-- The block the SHE specification encrypts into `M4`: `BE32((c << 4) | 0x8)`, then zeros. -/
def sheCounterBlock (c : BitVec 32) : Block :=
  ⟨store32 .big ((c <<< 4) ||| 8) ++ List.replicate 12 0, by simp⟩

/-- `M4` and `M5` of the SHE specification for the key `k`, counter `c` and slots `id`, `authId`. -/
def sheKeyUpdateConfirm (env : Env) (uid : Buf 15) (id authId : Nat) (k : Block)
    (c : BitVec 32) : Except Err (Buf 32 × Block) := do
  let k3 ← aesMp16 env (k.toList ++ sheKeyUpdateEncC)
  let e ← env.aesEncrypt k3 (sheCounterBlock c)
  let m4 := sheM4 uid (BitVec.ofNat 8 ((id <<< 4) ||| authId)) e
  let k4 ← aesMp16 env (k.toList ++ sheKeyUpdateMacC)
  let m5 ← env.cmac k4 m4.toList
  pure (m4, m5)

theorem counterPad_big (w : BitVec 32) : counterPad .big w = store32 .big (w ||| 8) := by
  have h8 : ∀ n, Nat.testBit 8 n = decide (3 = n) := fun n => Nat.testBit_two_pow (n := 3) (m := n)
  simp only [counterPad, store32, List.getD_cons_succ, List.getD_cons_zero, List.set_cons_succ,
    List.set_cons_zero, List.cons.injEq, and_true]
  refine ⟨?_, ?_, ?_, ?_⟩ <;> ext i <;> have := i.isLt <;>
    simp [BitVec.getLsbD_extractLsb', BitVec.getLsbD_or, BitVec.getLsbD_ofNat, h8,
      show (i : Nat) < 32 by omega] <;> omega

theorem counterBlock_big_zero (c : BitVec 32) :
    counterBlock .big (c <<< 4) (.replicate 12 0) = sheCounterBlock c := by
  apply Subtype.ext
  show counterPad .big (c <<< 4) ++ List.replicate 12 0 = _
  rw [counterPad_big]
  rfl

theorem popIds_byte (m1 : Buf 16) :
    BitVec.ofNat 8 ((hsmShePopId m1 <<< 4) ||| hsmShePopAuthId m1) = m1.get 15 := by
  have h : ∀ b : Fin 256, BitVec.ofNat 8
      (((((BitVec.ofFin b : Byte) &&& 0xf0) >>> 4).toNat <<< 4) |||
        ((BitVec.ofFin b : Byte) &&& 0x0f).toNat) = BitVec.ofFin b := by
    set_option maxRecDepth 8000 in decide
  exact h (m1.get 15).toFin

/-- On a big-endian host a successful `LOAD_KEY` whose `M2` has zero bytes 4..15 answers the
specification's `M4` and `M5` for the key, counter and slots it wrote. -/
theorem load_key_confirm_she_be (hbe : p.endian = .big) {s : Server} {m1 : Buf 16}
    {m2 : Buf 32} {m3 : Block} {r : Resp}
    (h : (whServerHandleSheRequest p env s (.loadKey m1 m2 m3)).2 = .ok r) :
    ∃ auth k1 plain, s.keys (sheKeyId p s.clientId (hsmShePopAuthId m1)) = some auth ∧
      aesMp16 env (auth.key.toList ++ sheKeyUpdateEncC) = .ok k1 ∧
      env.cbcDecrypt k1 zeroBlock 32 m2 = .ok plain ∧
      (slice plain 4 12 = .replicate 12 0 →
        ∃ m4 m5, r = .loadKey m4 m5 ∧
          sheKeyUpdateConfirm env s.she.uid (hsmShePopId m1) (hsmShePopAuthId m1)
            (slice plain 16 16) (m2Counter .big plain >>> 4) = .ok (m4, m5)) := by
  obtain ⟨auth, k1, plain, k3, c, k4, m5, ha, hk1, hdec, hk3, hc, hk4, hm5, rfl⟩ :=
    load_key_reply p env h
  refine ⟨auth, k1, plain, ha, hk1, hdec, fun hz => ⟨_, m5, rfl, ?_⟩⟩
  rw [hbe, hz, counterBlock_big_zero] at hc
  simp only [sheKeyUpdateConfirm, hk3, hk4, popIds_byte, bind, Except.bind, hc, hm5]
  rfl

theorem load_key_confirm_she_be_sample :
    let p := Platform.sample .big
    let s := Server.sampleBooted p Env.sample
    let r : Resp :=
      .loadKey (sheM4 (.replicate 15 7) 0x41 (counterBlock .big 0x10 (.replicate 12 0))) zeroBlock
    p.endian = .big ∧
      (whServerHandleSheRequest p Env.sample s (.loadKey sampleM1 sampleM2 zeroBlock)).2 = .ok r ∧
      ∃ auth k1 plain, s.keys (sheKeyId p s.clientId (hsmShePopAuthId sampleM1)) = some auth ∧
        aesMp16 Env.sample (auth.key.toList ++ sheKeyUpdateEncC) = .ok k1 ∧
        Env.sample.cbcDecrypt k1 zeroBlock 32 sampleM2 = .ok plain ∧
        (slice plain 4 12 = .replicate 12 0 →
          ∃ m4 m5, r = .loadKey m4 m5 ∧
            sheKeyUpdateConfirm Env.sample s.she.uid (hsmShePopId sampleM1)
              (hsmShePopAuthId sampleM1) (slice plain 16 16) (m2Counter .big plain >>> 4) =
              .ok (m4, m5)) :=
  have h : (whServerHandleSheRequest (Platform.sample .big) Env.sample
      (Server.sampleBooted (Platform.sample .big) Env.sample)
      (.loadKey sampleM1 sampleM2 zeroBlock)).2 =
      .ok (.loadKey (sheM4 (.replicate 15 7) 0x41 (counterBlock .big 0x10 (.replicate 12 0)))
        zeroBlock) := by decide
  ⟨rfl, h, load_key_confirm_she_be _ _ rfl h⟩

def sampleM2Flag4 : Buf 32 :=
  ⟨[0, 0, 0, 0x10, 0x80] ++ List.replicate 11 0 ++ List.replicate 16 0x33, by simp⟩

def sampleM2Flag3 : Buf 32 :=
  ⟨[0, 0, 0, 0x1c] ++ List.replicate 12 0 ++ List.replicate 16 0x33, by simp⟩

/-- `LOAD_KEY`s that succeed and answer an `M4` other than the specification's. -/
theorem load_key_m4_off_spec :
    (whServerHandleSheRequest (Platform.sample .big) Env.sample
        (Server.sampleBooted (Platform.sample .big) Env.sample)
        (.loadKey sampleM1 sampleM2Flag4 zeroBlock)).2 =
        .ok (.loadKey (sheM4 (.replicate 15 7) 0x41
          (counterBlock .big 0x10 (slice sampleM2Flag4 4 12))) zeroBlock) ∧
      (whServerHandleSheRequest (Platform.sample .little) Env.sample
        (Server.sampleBooted (Platform.sample .little) Env.sample)
        (.loadKey sampleM1 sampleM2Flag3 zeroBlock)).2 =
        .ok (.loadKey (sheM4 (.replicate 15 7) 0x41
          (counterBlock .little 0x1c000000 (.replicate 12 0))) zeroBlock) ∧
      sheKeyUpdateConfirm Env.sample (.replicate 15 7) 4 1 (.replicate 16 0x33) 1 =
        .ok (sheM4 (.replicate 15 7) 0x41 (sheCounterBlock 1), zeroBlock) ∧
      sheM4 (.replicate 15 7) 0x41 (counterBlock .big 0x10 (slice sampleM2Flag4 4 12)) ≠
        sheM4 (.replicate 15 7) 0x41 (sheCounterBlock 1) ∧
      sheM4 (.replicate 15 7) 0x41 (counterBlock .little 0x1c000000 (.replicate 12 0)) ≠
        sheM4 (.replicate 15 7) 0x41 (sheCounterBlock 1) :=
  ⟨by decide, by decide, rfl, by decide, by decide⟩

/-! ## Every change of the store -/

theorem hsmSheLoadKey_writes_checked {m1 : Buf 16} {m2 : Buf 32} {m3 : Block} {s : Server}
    (hne : (hsmSheLoadKey p env m1 m2 m3 s).2.keys ≠ s.keys) :
    ∃ auth k2 k1 plain, s.keys (sheKeyId p s.clientId (hsmShePopAuthId m1)) = some auth ∧
      aesMp16 env (auth.key.toList ++ sheKeyUpdateMacC) = .ok k2 ∧
      env.cmac k2 (m1.toList ++ m2.toList) = .ok m3 ∧
      aesMp16 env (auth.key.toList ++ sheKeyUpdateEncC) = .ok k1 ∧
      env.cbcDecrypt k1 zeroBlock 32 m2 = .ok plain ∧
      (slice m1 0 15 = s.she.uid ∨ slice m1 0 15 = .replicate 15 0 ∧
        ∃ o, s.keys (sheKeyId p s.clientId (hsmShePopId m1)) = some o ∧
          o.flags &&& p.flagWildcard ≠ 0) ∧
      (hsmSheLoadKey p env m1 m2 m3 s).2.keys =
        Function.update s.keys (sheKeyId p s.clientId (hsmShePopId m1)) (some (loadKeyObj p plain)) := by
  rcases hsmSheLoadKey_keys p env m1 m2 m3 s with h | ⟨plain, s₁, h₁, h₂, hk⟩
  · exact absurd h hne
  obtain ⟨auth, k2, k1, hr, hk2, hmac, hk1, hdec, rfl⟩ := loadKeyDecrypt_ok p env h₁
  obtain ⟨-, hu⟩ := loadKeyCheck_ok p env h₂
  exact ⟨auth, k2, k1, plain, (readResult_eq_ok env hr).2, hk2, hmac, hk1, hdec,
    hu.imp id fun ⟨hz, o, ho, hw⟩ => ⟨hz, o, (readResult_eq_ok env ho).2, hw⟩, hk⟩

/-- Over any run, a store entry changes only at a SHE slot of the requesting client, by a
`LOAD_KEY` that passed its checks, `LOAD_PLAIN_KEY`, `INIT_RND` or `EXTEND_SEED`. -/
theorem store_changes_accounted (s : Server) (reqs : List Request) :
    ∀ st ∈ trace p env s reqs, ∀ id, st.post.keys id ≠ st.pre.keys id → ∃ n,
      id = sheKeyId p st.pre.clientId n ∧
      ((∃ m1 m2 m3 auth k2 k1 plain, st.req = .loadKey m1 m2 m3 ∧ hsmShePopId m1 = n ∧
        st.pre.keys (sheKeyId p st.pre.clientId (hsmShePopAuthId m1)) = some auth ∧
        aesMp16 env (auth.key.toList ++ sheKeyUpdateMacC) = .ok k2 ∧
        env.cmac k2 (m1.toList ++ m2.toList) = .ok m3 ∧
        aesMp16 env (auth.key.toList ++ sheKeyUpdateEncC) = .ok k1 ∧
        env.cbcDecrypt k1 zeroBlock 32 m2 = .ok plain ∧
        (slice m1 0 15 = st.pre.she.uid ∨ slice m1 0 15 = .replicate 15 0 ∧
          ∃ o, st.pre.keys (sheKeyId p st.pre.clientId n) = some o ∧
            o.flags &&& p.flagWildcard ≠ 0) ∧
        st.post.keys id = some (loadKeyObj p plain)) ∨
      (n = p.ramKeyId ∧ ∃ k, st.req = .loadPlainKey k) ∨
      (n = p.prngSeedId ∧ (st.req = .initRnd ∨ ∃ e, st.req = .extendSeed e))) := by
  intro st hst id hne
  have hpost : st.post = (whServerHandleSheRequest p env st.pre st.req).1 := by
    rw [trace_step p env hst]
  rw [hpost] at hne ⊢
  obtain ⟨n, hn, rfl⟩ := (dispatch_confined p env st.pre st.req).keys_changed hne
  refine ⟨n, rfl, ?_⟩
  cases hreq : st.req <;> rw [hreq] at hn hne <;>
    simp only [Request.slots, List.mem_singleton, List.not_mem_nil] at hn
  case loadKey m1 m2 m3 =>
    subst hn
    rcases dispatch_keys p env st.pre (.loadKey m1 m2 m3) with e | e
    · exact absurd e (fun h => hne (congrFun h _))
    rw [e] at hne ⊢
    simp only [sheHandler] at hne ⊢
    obtain ⟨auth, k2, k1, plain, ha, hk2, hmac, hk1, hdec, hu, hk⟩ :=
      hsmSheLoadKey_writes_checked p env (fun h => hne (congrFun h _))
    refine .inl ⟨m1, m2, m3, auth, k2, k1, plain, rfl, rfl, ha, hk2, hmac, hk1, hdec, hu, ?_⟩
    rw [hk, Function.update_same]
  case loadPlainKey k => exact .inr (.inl ⟨hn, k, rfl⟩)
  case initRnd => exact .inr (.inr ⟨hn, .inl rfl⟩)
  case extendSeed e => exact .inr (.inr ⟨hn, .inr ⟨e, rfl⟩⟩)

theorem store_changes_accounted_sample :
    let p := Platform.sample .big
    let s := Server.sampleBooted p Env.sample
    let reqs := [Request.sampleLoadKey (.replicate 15 7) 5 1 1 (.replicate 16 0x22),
      .loadPlainKey (.replicate 16 0x42), .initRnd]
    ∀ st ∈ trace p Env.sample s reqs, ∀ id, st.post.keys id ≠ st.pre.keys id → ∃ n,
      id = sheKeyId p st.pre.clientId n ∧
      ((∃ m1 m2 m3 auth k2 k1 plain, st.req = .loadKey m1 m2 m3 ∧ hsmShePopId m1 = n ∧
        st.pre.keys (sheKeyId p st.pre.clientId (hsmShePopAuthId m1)) = some auth ∧
        aesMp16 Env.sample (auth.key.toList ++ sheKeyUpdateMacC) = .ok k2 ∧
        Env.sample.cmac k2 (m1.toList ++ m2.toList) = .ok m3 ∧
        aesMp16 Env.sample (auth.key.toList ++ sheKeyUpdateEncC) = .ok k1 ∧
        Env.sample.cbcDecrypt k1 zeroBlock 32 m2 = .ok plain ∧
        (slice m1 0 15 = st.pre.she.uid ∨ slice m1 0 15 = .replicate 15 0 ∧
          ∃ o, st.pre.keys (sheKeyId p st.pre.clientId n) = some o ∧
            o.flags &&& p.flagWildcard ≠ 0) ∧
        st.post.keys id = some (loadKeyObj p plain)) ∨
      (n = p.ramKeyId ∧ ∃ k, st.req = .loadPlainKey k) ∨
      (n = p.prngSeedId ∧ (st.req = .initRnd ∨ ∃ e, st.req = .extendSeed e))) :=
  store_changes_accounted _ _ _ _

end WolfHsmShe
