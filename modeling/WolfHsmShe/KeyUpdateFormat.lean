import WolfHsmShe.LoadKeySpec
import WolfHsmShe.RoundTrip
import WolfHsmShe.Services

/-!
# The key-update messages of the SHE specification

`EXPORT_RAM_KEY` encodes `M1`, `M2` and `M3` as the specification does, and `LOAD_KEY` decodes them.
-/

namespace WolfHsmShe

/-! ## The encoder of the specification -/

/-- The cleartext of `M2`: `CID` (28 bits), `FID` (5 bits), 95 zero bits, then the key. -/
def sheM2Plain (cid : BitVec 28) (fid : BitVec 5) (k : Block) : Buf 32 :=
  ⟨store32 .big (cid ++ fid.extractLsb' 1 4) ++
    (fid.extractLsb' 0 1 ++ 0#7) :: List.replicate 11 0 ++ k.toList, by
    simp only [List.length_append, List.length_cons, List.length_replicate, store32_length,
      Mathlib.Vector.toList_length]⟩

/-- `M1`: the UID, then the byte `(ID << 4) | AUTHID`. -/
def sheM1 (uid : Buf 15) (id authId : Nat) : Buf 16 :=
  ⟨uid.toList ++ [BitVec.ofNat 8 ((id <<< 4) ||| authId)], snoc_length _ _⟩

/-- `M1`, `M2` and `M3` of the SHE key update writing `k`, `cid` and `fid` to slot `id`. -/
def sheKeyUpdateMessages (env : Env) (uid : Buf 15) (id authId : Nat) (authKey k : Block)
    (cid : BitVec 28) (fid : BitVec 5) : Except Err (Buf 16 × Buf 32 × Block) := do
  let k1 ← aesMp16 env (authKey.toList ++ sheKeyUpdateEncC)
  let k2 ← aesMp16 env (authKey.toList ++ sheKeyUpdateMacC)
  let m1 := sheM1 uid id authId
  let m2 ← env.cbcEncrypt k1 zeroBlock 32 (sheM2Plain cid fid k)
  let m3 ← env.cmac k2 (m1.toList ++ m2.toList)
  pure (m1, m2, m3)

variable (p : Platform) (env : Env)

theorem sheKeyUpdateMessages_ok {uid : Buf 15} {id authId : Nat} {a k : Block} {cid : BitVec 28}
    {fid : BitVec 5} {m1 : Buf 16} {m2 : Buf 32} {m3 : Block}
    (h : sheKeyUpdateMessages env uid id authId a k cid fid = .ok (m1, m2, m3)) :
    ∃ k1 k2, aesMp16 env (a.toList ++ sheKeyUpdateEncC) = .ok k1 ∧
      aesMp16 env (a.toList ++ sheKeyUpdateMacC) = .ok k2 ∧ m1 = sheM1 uid id authId ∧
      env.cbcEncrypt k1 zeroBlock 32 (sheM2Plain cid fid k) = .ok m2 ∧
      env.cmac k2 (m1.toList ++ m2.toList) = .ok m3 := by
  simp only [sheKeyUpdateMessages, bind, Except.bind, pure, Except.pure] at h
  repeat' split at h
  all_goals cases h
  exact ⟨_, _, ‹_›, ‹_›, rfl, ‹_›, ‹_›⟩

theorem sheKeyUpdateConfirm_ok {uid : Buf 15} {id authId : Nat} {k : Block} {c : BitVec 32}
    {m4 : Buf 32} {m5 : Block} (h : sheKeyUpdateConfirm env uid id authId k c = .ok (m4, m5)) :
    ∃ k3 e k4, aesMp16 env (k.toList ++ sheKeyUpdateEncC) = .ok k3 ∧
      env.aesEncrypt k3 (sheCounterBlock c) = .ok e ∧
      aesMp16 env (k.toList ++ sheKeyUpdateMacC) = .ok k4 ∧
      m4 = sheM4 uid (BitVec.ofNat 8 ((id <<< 4) ||| authId)) e ∧ env.cmac k4 m4.toList = .ok m5 := by
  simp only [sheKeyUpdateConfirm, bind, Except.bind, pure, Except.pure] at h
  repeat' split at h
  all_goals cases h
  exact ⟨_, _, _, ‹_›, ‹_›, ‹_›, rfl, ‹_›⟩

/-! ## Reading the fields back

What `m2Counter`, `hsmShePopFlags`, `hsmShePopId` and `hsmShePopAuthId` read from encoded
messages, compared bit by bit. -/

theorem getLsbD_cid_fid (cid : BitVec 28) (fid : BitVec 5) (j : Nat) :
    (cid ++ fid.extractLsb' 1 4 : BitVec 32).getLsbD j =
      if j < 4 then fid.getLsbD (1 + j) else cid.getLsbD (j - 4) := by
  rw [show (cid ++ fid.extractLsb' 1 4 : BitVec 32).getLsbD j =
    (cid ++ fid.extractLsb' 1 4).getLsbD j from rfl, BitVec.getLsbD_append]
  by_cases hj : j < 4 <;> simp [hj, BitVec.getLsbD_extractLsb']

theorem getLsbD_fid_byte (fid : BitVec 5) (j : Nat) :
    (fid.extractLsb' 0 1 ++ 0#7 : Byte).getLsbD j = (decide (j = 7) && fid.getLsbD 0) := by
  rw [show (fid.extractLsb' 0 1 ++ 0#7 : Byte).getLsbD j =
    (fid.extractLsb' 0 1 ++ 0#7).getLsbD j from rfl, BitVec.getLsbD_append]
  by_cases hj : j < 7 <;> simp [hj, BitVec.getLsbD_extractLsb']
  · omega
  · by_cases h7 : j = 7 <;> simp [h7]
    omega

theorem m2Counter_sheM2Plain (cid : BitVec 28) (fid : BitVec 5) (k : Block) :
    m2Counter .big (sheM2Plain cid fid k) >>> 4 = cid.setWidth 32 := by
  have h : m2Counter .big (sheM2Plain cid fid k) = cid ++ fid.extractLsb' 1 4 := bytes_append_eq _
  rw [h]
  ext ⟨i, hi⟩
  simp [BitVec.getLsbD_ushiftRight, getLsbD_cid_fid, BitVec.getLsbD_setWidth, hi,
    Nat.not_lt.2 (Nat.le_add_right 4 i), Nat.add_sub_cancel_left]

theorem hsmShePopFlags_sheM2Plain (cid : BitVec 28) (fid : BitVec 5) (k : Block) :
    hsmShePopFlags (sheM2Plain cid fid k) =
      (fid.extractLsb' 1 4).setWidth 32 <<< 4 ||| (fid.extractLsb' 0 1).setWidth 32 := by
  have h15 : ∀ n, Nat.testBit 15 n = decide (n < 4) := fun n => Nat.testBit_two_pow_sub_one 4 n
  have h128 : ∀ n, Nat.testBit 128 n = decide (7 = n) := fun n => Nat.testBit_two_pow (n := 7) (m := n)
  refine (hsmShePopFlags_cons _ _ _ _ _ _ _).trans ?_
  ext ⟨i, hi⟩
  simp [BitVec.getLsbD_or, BitVec.getLsbD_shiftLeft, BitVec.getLsbD_setWidth, BitVec.getLsbD_and,
    BitVec.getLsbD_ushiftRight, BitVec.getLsbD_extractLsb', BitVec.getLsbD_append, store32,
    BitVec.getLsbD_ofNat, h15, h128, getLsbD_cid_fid, getLsbD_fid_byte]
  rcases Nat.eq_zero_or_pos i with rfl | h0
  · simp
  · by_cases h4 : i - 4 < 4
    · simp [h4, hi, Nat.pos_iff_ne_zero.1 h0, Nat.lt_trans h4 (by decide : 4 < 8),
        Nat.lt_trans h4 (by decide : 4 < 32)]
    · simp [h4, Nat.pos_iff_ne_zero.1 h0]

theorem slice_sheM2Plain_key (cid : BitVec 28) (fid : BitVec 5) (k : Block) :
    slice (sheM2Plain cid fid k) 16 16 = k :=
  slice_key _ (by simp) k _

theorem slice_sheM2Plain_pad (cid : BitVec 28) {fid : BitVec 5} (k : Block)
    (h : fid.getLsbD 0 = false) : slice (sheM2Plain cid fid k) 4 12 = .replicate 12 0 := by
  have hb : fid.extractLsb' 0 1 ++ 0#7 = (0 : Byte) := by
    ext ⟨j, hj⟩
    have := getLsbD_fid_byte fid j
    simp only [h, Bool.and_false] at this
    exact this.trans (BitVec.getLsbD_zero ..).symm
  apply Subtype.ext
  simp only [slice, sheM2Plain, readIn, Mathlib.Vector.toList_mk, hb]
  rfl

theorem hsmShePopId_sheM1 (uid : Buf 15) (id authId : Fin 16) :
    hsmShePopId (sheM1 uid id authId) = id :=
  hsmShePopId_snoc uid id authId _

theorem hsmShePopAuthId_sheM1 (uid : Buf 15) (id authId : Fin 16) :
    hsmShePopAuthId (sheM1 uid id authId) = authId :=
  hsmShePopAuthId_snoc uid id authId _

/-! ## `EXPORT_RAM_KEY` is the encoder -/

theorem exportPlain_eq_sheM2Plain (k : Block) : exportPlain p k = sheM2Plain 1 0 k := by
  have h : ∀ e, store32 e (ntohl e 1 <<< 4) ++ List.replicate 12 0 =
      store32 .big ((1 : BitVec 28) ++ (0 : BitVec 5).extractLsb' 1 4) ++
        ((0 : BitVec 5).extractLsb' 0 1 ++ 0#7) :: List.replicate 11 0 := by
    intro e
    cases e <;> decide
  apply Subtype.ext
  simp only [exportPlain, sheM2Plain, Mathlib.Vector.toList_mk]
  rw [h]

theorem counterBlock_export (e : Endian) :
    counterBlock e (ntohl e 1 <<< 4) (.replicate 12 0) = sheCounterBlock 1 := by
  cases e <;> rfl

/-- A successful `EXPORT_RAM_KEY` replies the SHE messages that write the RAM key to `RAM_KEY`
under `SECRET_KEY` with counter 1 and no flags, and the `M4` and `M5` that confirm them. -/
theorem export_ram_key_she_messages {s : Server} {m1 : Buf 16} {m2 : Buf 32} {m3 : Block}
    {m4 : Buf 32} {m5 : Block}
    (h : (whServerHandleSheRequest p env s .exportRamKey).2 = .ok (.exportRamKey m1 m2 m3 m4 m5)) :
    ∃ secret ram, s.keys (sheKeyId p s.clientId p.secretKeyId) = some secret ∧
      s.keys (sheKeyId p s.clientId p.ramKeyId) = some ram ∧
      sheKeyUpdateMessages env s.she.uid p.ramKeyId p.secretKeyId secret.key ram.key 1 0 =
        .ok (m1, m2, m3) ∧
      sheKeyUpdateConfirm env s.she.uid p.ramKeyId p.secretKeyId ram.key 1 = .ok (m4, m5) := by
  obtain ⟨secret, ram, hs, hr, hc⟩ := hsmSheExportRamKey_ok p env (handler_of_dispatch_ok p env h).2
  obtain ⟨rfl, ⟨k1, hk1, hm2⟩, ⟨k2, hk2, hm3⟩, ⟨k3, c, hk3, -, hc4, rfl⟩, ⟨k4, hk4, hm5⟩⟩ := hc
  rw [exportPlain_eq_sheM2Plain] at hm2
  rw [counterBlock_export] at hc4
  unfold exportIds at hm3 hm5
  refine ⟨secret, ram, (readResult_eq_ok env hs).2, (readResult_eq_ok env hr).2, ?_, ?_⟩
  · simp only [sheKeyUpdateMessages, hk1, hk2, hm2, bind, Except.bind, sheM1, hm3]
    rfl
  · simp only [sheKeyUpdateConfirm, hk3, hk4, hc4, bind, Except.bind, hm5]
    rfl

theorem export_ram_key_she_messages_sample :
    let p := Platform.sample .little
    let s := Server.sampleExporter
    ∃ secret ram, s.keys (sheKeyId p s.clientId p.secretKeyId) = some secret ∧
      s.keys (sheKeyId p s.clientId p.ramKeyId) = some ram ∧
      sheKeyUpdateMessages Env.sample s.she.uid p.ramKeyId p.secretKeyId secret.key ram.key 1 0 =
        .ok (sheM1 (.replicate 15 7) 14 0, sheM2Plain 1 0 (.replicate 16 0x5a), zeroBlock) ∧
      sheKeyUpdateConfirm Env.sample s.she.uid p.ramKeyId p.secretKeyId ram.key 1 =
        .ok (sheM4 (.replicate 15 7) 0xe0 (sheCounterBlock 1), zeroBlock) :=
  export_ram_key_she_messages _ _ (by decide)

/-! ## `LOAD_KEY`, stage by stage

One equation per stage of `hsmSheLoadKey` for the case where it goes through, and their
composition. -/

theorem loadKeyDecrypt_run {m1 : Buf 16} {m2 : Buf 32} {m3 : Block} {s : Server} {auth : KeyObj}
    {k2 k1 : Block} {plain : Buf 32}
    (ha : readResult env s.keys (sheKeyId p s.clientId (hsmShePopAuthId m1)) = .ok auth)
    (hk2 : aesMp16 env (auth.key.toList ++ sheKeyUpdateMacC) = .ok k2)
    (hmac : env.cmac k2 (m1.toList ++ m2.toList) = .ok m3)
    (hk1 : aesMp16 env (auth.key.toList ++ sheKeyUpdateEncC) = .ok k1)
    (hdec : env.cbcDecrypt k1 zeroBlock 32 m2 = .ok plain) :
    loadKeyDecrypt p env m1 m2 m3 s =
      (.ok plain, { s with she := { s.she with sheCmac := ⟨k2, m1.toList ++ m2.toList⟩ } }) := by
  simp [loadKeyDecrypt, ha, hk2, hmac, hk1, hdec]

theorem uid_accepted {w : BitVec 32} {meta : KeyObj} {m1 : Buf 16} {uid : Buf 15}
    (huid : slice m1 0 15 = uid) (hu0 : uid ≠ .replicate 15 0) : ¬ uidRejected w meta m1 uid := by
  rw [uidRejected, huid, if_neg hu0]
  exact fun h => h rfl

theorem loadKeyCheck_run {m1 : Buf 16} {plain : Buf 32} {s : Server}
    (htgt : readResult env s.keys (sheKeyId p s.clientId (hsmShePopId m1)) = .error .notFound ∨
      ∃ o, readResult env s.keys (sheKeyId p s.clientId (hsmShePopId m1)) = .ok o ∧
        o.flags &&& p.flagWriteProtect = 0 ∧
        ntohl p.endian o.count < ntohl p.endian (m2Counter p.endian plain >>> 4))
    (huid : slice m1 0 15 = s.she.uid) (hu0 : s.she.uid ≠ .replicate 15 0) :
    loadKeyCheck p env m1 plain s = (.ok (), s) := by
  rcases htgt with h | ⟨o, h, hwp, hc⟩
  · simp [loadKeyCheck, h, isNotFound, targetMeta, uid_accepted huid hu0]
  · simp [loadKeyCheck, h, isNotFound, targetMeta, uid_accepted huid hu0, hwp, hc]

theorem loadKeyWrite_run {m1 : Buf 16} {plain : Buf 32} {s : Server}
    (hio : env.readFault (sheKeyId p s.clientId (hsmShePopId m1)) = none ∧
      env.addFault (sheKeyId p s.clientId (hsmShePopId m1)) = none ∧
      env.cacheFault (sheKeyId p s.clientId (hsmShePopId m1)) = none) :
    loadKeyWrite p env m1 plain s = (.ok (loadKeyObj p plain), { s with
      keys := Function.update s.keys (sheKeyId p s.clientId (hsmShePopId m1))
        (some (loadKeyObj p plain)) }) := by
  unfold loadKeyWrite cacheKey addObject
  split_ifs
  · simp only [orFail_writeKey_bind_run, hio.2.2, SheM.pure_run]
    rfl
  · simp only [orFail_writeKey_bind_run, hio.2.1]
    simp only [readKeyOr, orFail, SheM.bind_run, readKey_run, readResult, Function.update_same, hio.1,
      SheM.pure_run]
    rfl

theorem loadKeyConfirm_reply {m1 : Buf 16} {plain : Buf 32} {o : KeyObj} {s : Server}
    {k3 c k4 m5 : Block} (hk3 : aesMp16 env (o.key.toList ++ sheKeyUpdateEncC) = .ok k3)
    (hset : env.aesSetKey k3 = .ok ())
    (hc : env.aesEncrypt k3 (counterBlock p.endian (o.count <<< 4) (slice plain 4 12)) = .ok c)
    (hk4 : aesMp16 env (o.key.toList ++ sheKeyUpdateMacC) = .ok k4)
    (hm5 : env.cmac k4 (sheM4 s.she.uid (m1.get 15) c).toList = .ok m5) :
    (loadKeyConfirm p env m1 plain o s).1 = .ok (.loadKey (sheM4 s.she.uid (m1.get 15) c) m5) := by
  simp only [loadKeyConfirm, bind_assoc, call_bind_run, getShe_bind_run, cmacGenerate_bind_run,
    doIf_bind_run, modifyShe_bind_run, hk3, hset, hc, hk4, hm5]
  split_ifs <;> rfl

theorem hsmSheLoadKey_of_steps {m1 : Buf 16} {m2 : Buf 32} {m3 : Block} {s s₁ s₂ : Server}
    {plain : Buf 32} {o : KeyObj}
    (h₁ : loadKeyDecrypt p env m1 m2 m3 s = (.ok plain, s₁))
    (h₂ : loadKeyCheck p env m1 plain s₁ = (.ok (), s₁))
    (h₃ : loadKeyWrite p env m1 plain s₁ = (.ok o, s₂)) :
    hsmSheLoadKey p env m1 m2 m3 s = loadKeyConfirm p env m1 plain o s₂ := by
  simp only [hsmSheLoadKey, SheM.bind_run, h₁, h₂, h₃]

theorem dispatch_keys_of_passed {s : Server} {req : Request} (hg : gated s.she req = false) :
    (whServerHandleSheRequest p env s req).1.keys = (sheHandler p env req s).2.keys := by
  unfold whServerHandleSheRequest
  simp only [hg, Bool.false_eq_true, if_false]
  split <;> simp_all

theorem dispatch_reply_of_handler {s : Server} {req : Request} {r : Resp}
    (hg : gated s.she req = false) (h : (sheHandler p env req s).1 = .ok r) :
    (whServerHandleSheRequest p env s req).2 = .ok r := by
  rw [dispatch_of_handler_ok p env hg (Prod.ext h rfl)]

/-! ## `LOAD_KEY` accepts every encoded update -/

theorem loadKeyObj_sheM2Plain (hbe : p.endian = .big) (cid : BitVec 28) (fid : BitVec 5)
    (k : Block) : loadKeyObj p (sheM2Plain cid fid k) =
      ⟨(fid.extractLsb' 1 4).setWidth 32 <<< 4 ||| (fid.extractLsb' 0 1).setWidth 32,
        cid.setWidth 32, k⟩ := by
  rw [loadKeyObj, hbe, m2Counter_sheM2Plain, hsmShePopFlags_sheM2Plain, slice_sheM2Plain_key]

theorem hsmSheLoadKey_of_messages (hbe : p.endian = .big)
    (hcbc : ∀ k x y, env.cbcEncrypt k zeroBlock 32 x = .ok y → env.cbcDecrypt k zeroBlock 32 y = .ok x)
    {s : Server} (hu0 : s.she.uid ≠ .replicate 15 0) {id authId : Fin 16} {auth : KeyObj}
    (hauth : readResult env s.keys (sheKeyId p s.clientId authId) = .ok auth) {cid : BitVec 28}
    (htgt : s.keys (sheKeyId p s.clientId id) = none ∨ ∃ o, s.keys (sheKeyId p s.clientId id) = some o ∧
      o.flags &&& p.flagWriteProtect = 0 ∧ o.count < cid.setWidth 32)
    (hio : env.readFault (sheKeyId p s.clientId id) = none ∧
      env.addFault (sheKeyId p s.clientId id) = none ∧ env.cacheFault (sheKeyId p s.clientId id) = none)
    {k : Block} {fid : BitVec 5} {m1 : Buf 16} {m2 : Buf 32} {m3 : Block}
    (hmsg : sheKeyUpdateMessages env s.she.uid id authId auth.key k cid fid = .ok (m1, m2, m3)) :
    ∃ ctx, m1 = sheM1 s.she.uid id authId ∧
      hsmSheLoadKey p env m1 m2 m3 s = loadKeyConfirm p env m1 (sheM2Plain cid fid k)
        (loadKeyObj p (sheM2Plain cid fid k))
        { s with
          she := { s.she with sheCmac := ctx }
          keys := Function.update s.keys (sheKeyId p s.clientId id)
            (some (loadKeyObj p (sheM2Plain cid fid k))) } := by
  obtain ⟨k1, k2, hk1, hk2, rfl, hm2, hm3⟩ := sheKeyUpdateMessages_ok env hmsg
  have hid := hsmShePopId_sheM1 s.she.uid id authId
  have h₁ := loadKeyDecrypt_run p env (by rwa [hsmShePopAuthId_sheM1]) hk2 hm3 hk1 (hcbc _ _ _ hm2)
  have htgt' : readResult env s.keys (sheKeyId p s.clientId (hsmShePopId (sheM1 s.she.uid id authId))) =
        .error .notFound ∨
      ∃ o, readResult env s.keys (sheKeyId p s.clientId (hsmShePopId (sheM1 s.she.uid id authId))) =
        .ok o ∧ o.flags &&& p.flagWriteProtect = 0 ∧
        ntohl p.endian o.count < ntohl p.endian (m2Counter p.endian (sheM2Plain cid fid k) >>> 4) := by
    simp only [hid, readResult, hio.1, hbe, ntohl, m2Counter_sheM2Plain]
    rcases htgt with h | ⟨o, h, hwp, hc⟩
    · simp [h]
    · simp [h, hwp, hc]
  have hl := hsmSheLoadKey_of_steps p env h₁ (loadKeyCheck_run p env htgt' (slice_snoc _ _ _) hu0)
    (loadKeyWrite_run p env (by rwa [hid]))
  rw [hid] at hl
  exact ⟨_, rfl, hl⟩


/-- On a big-endian host past secure boot, `LOAD_KEY` of a SHE key update of a slot its target
allows installs the encoded key, counter and flags, and answers the specification's `M4`, `M5`. -/
theorem load_key_accepts_she_update (hbe : p.endian = .big)
    (hcbc : ∀ k x y, env.cbcEncrypt k zeroBlock 32 x = .ok y → env.cbcDecrypt k zeroBlock 32 y = .ok x)
    {s : Server} (hs : s.she.uidSet = true ∧ s.she.sbState = .success)
    (hu0 : s.she.uid ≠ .replicate 15 0) {id authId : Fin 16} {auth : KeyObj}
    (hauth : readResult env s.keys (sheKeyId p s.clientId authId) = .ok auth) {cid : BitVec 28}
    (htgt : s.keys (sheKeyId p s.clientId id) = none ∨ ∃ o, s.keys (sheKeyId p s.clientId id) = some o ∧
      o.flags &&& p.flagWriteProtect = 0 ∧ o.count < cid.setWidth 32)
    (hio : env.readFault (sheKeyId p s.clientId id) = none ∧
      env.addFault (sheKeyId p s.clientId id) = none ∧ env.cacheFault (sheKeyId p s.clientId id) = none)
    {k : Block} {fid : BitVec 5} {m1 : Buf 16} {m2 : Buf 32} {m3 : Block}
    (hmsg : sheKeyUpdateMessages env s.she.uid id authId auth.key k cid fid = .ok (m1, m2, m3)) :
    (whServerHandleSheRequest p env s (.loadKey m1 m2 m3)).1.keys =
        Function.update s.keys (sheKeyId p s.clientId id) (some
          ⟨(fid.extractLsb' 1 4).setWidth 32 <<< 4 ||| (fid.extractLsb' 0 1).setWidth 32,
            cid.setWidth 32, k⟩) ∧
      ∀ m4 m5, fid.getLsbD 0 = false → (∀ k, env.aesSetKey k = .ok ()) →
        sheKeyUpdateConfirm env s.she.uid id authId k (cid.setWidth 32) = .ok (m4, m5) →
        (whServerHandleSheRequest p env s (.loadKey m1 m2 m3)).2 = .ok (.loadKey m4 m5) := by
  obtain ⟨ctx, rfl, hl⟩ := hsmSheLoadKey_of_messages p env hbe hcbc hu0 hauth htgt hio hmsg
  have hobj := loadKeyObj_sheM2Plain p hbe cid fid k
  have hg := gated_eq_false hs (.loadKey (sheM1 s.she.uid id authId) m2 m3)
  refine ⟨?_, fun m4 m5 hf0 hset hconf => ?_⟩
  · rw [dispatch_keys_of_passed p env hg]
    show (hsmSheLoadKey p env _ m2 m3 s).2.keys = _
    rw [hl, loadKeyConfirm_keys, hobj]
  · obtain ⟨k3, e, k4, hk3, he, hk4, rfl, hm5⟩ := sheKeyUpdateConfirm_ok env hconf
    have hget : (sheM1 s.she.uid id authId).get 15 = BitVec.ofNat 8 ((↑id <<< 4) ||| ↑authId) :=
      get_snoc _ _ _
    rw [← hget] at hm5 ⊢
    refine dispatch_reply_of_handler p env hg ?_
    show (hsmSheLoadKey p env _ m2 m3 s).1 = _
    rw [hl, hobj]
    exact loadKeyConfirm_reply p env hk3 (hset k3)
      (by rwa [hbe, slice_sheM2Plain_pad _ _ hf0, counterBlock_big_zero]) hk4 hm5

theorem load_key_accepts_she_update_sample :
    let p := Platform.sample .big
    let s := Server.sampleBooted p Env.sample
    (whServerHandleSheRequest p Env.sample s (.loadKey (sheM1 (.replicate 15 7) 5 1)
        (sheM2Plain 3 0x10 (.replicate 16 0x22)) zeroBlock)).1.keys =
        Function.update s.keys (sheKeyId p s.clientId 5) (some
          ⟨((0x10 : BitVec 5).extractLsb' 1 4).setWidth 32 <<< 4 |||
            ((0x10 : BitVec 5).extractLsb' 0 1).setWidth 32, (3 : BitVec 28).setWidth 32,
            .replicate 16 0x22⟩) ∧
      ∀ m4 m5, (0x10 : BitVec 5).getLsbD 0 = false → (∀ k, Env.sample.aesSetKey k = .ok ()) →
        sheKeyUpdateConfirm Env.sample s.she.uid 5 1 (.replicate 16 0x22) ((3 : BitVec 28).setWidth 32) =
          .ok (m4, m5) →
        (whServerHandleSheRequest p Env.sample s (.loadKey (sheM1 (.replicate 15 7) 5 1)
          (sheM2Plain 3 0x10 (.replicate 16 0x22)) zeroBlock)).2 = .ok (.loadKey m4 m5) :=
  @load_key_accepts_she_update (Platform.sample .big) Env.sample rfl (fun _ _ _ h => h.symm)
    (Server.sampleBooted (Platform.sample .big) Env.sample) ⟨rfl, by decide⟩ (by decide) 5 1
    ⟨0, 0, .replicate 16 0x11⟩ rfl 3 (.inl rfl) ⟨rfl, rfl, rfl⟩ (.replicate 16 0x22) 0x10 _ _ _ rfl

/-! ## The RAM key authorises every slot -/

/-- After `LOAD_PLAIN_KEY` of `a`, a key update authorised by `RAM_KEY` under `a` writes any other
slot of the client. -/
theorem ram_key_authorises_any_slot (hbe : p.endian = .big)
    (hcbc : ∀ k x y, env.cbcEncrypt k zeroBlock 32 x = .ok y → env.cbcDecrypt k zeroBlock 32 y = .ok x)
    {s : Server} (hs : s.she.uidSet = true ∧ s.she.sbState = .success)
    (hu0 : s.she.uid ≠ .replicate 15 0) {id : Fin 16} (hid : id ≠ p.ramKeyId) {cid : BitVec 28}
    (htgt : s.keys (sheKeyId p s.clientId id) = none ∨ ∃ o, s.keys (sheKeyId p s.clientId id) = some o ∧
      o.flags &&& p.flagWriteProtect = 0 ∧ o.count < cid.setWidth 32)
    (hio : env.readFault (sheKeyId p s.clientId id) = none ∧
      env.addFault (sheKeyId p s.clientId id) = none ∧ env.cacheFault (sheKeyId p s.clientId id) = none)
    (hram : env.readFault (sheKeyId p s.clientId p.ramKeyId) = none ∧
      env.cacheFault (sheKeyId p s.clientId p.ramKeyId) = none)
    (a k : Block) {fid : BitVec 5} {m1 : Buf 16} {m2 : Buf 32} {m3 : Block}
    (hmsg : sheKeyUpdateMessages env s.she.uid id p.ramKeyId a k cid fid = .ok (m1, m2, m3)) :
    (run p env s [.loadPlainKey a, .loadKey m1 m2 m3]).keys =
      Function.update (Function.update s.keys (sheKeyId p s.clientId p.ramKeyId) (some ⟨0, 0, a⟩))
        (sheKeyId p s.clientId id) (some
          ⟨(fid.extractLsb' 1 4).setWidth 32 <<< 4 ||| (fid.extractLsb' 0 1).setWidth 32,
            cid.setWidth 32, k⟩) := by
  set s₁ : Server := { s with
    keys := Function.update s.keys (sheKeyId p s.clientId p.ramKeyId) (some ⟨0, 0, a⟩)
    she := { s.she with ramKeyPlain := true } }
  have h₁ : whServerHandleSheRequest p env s (.loadPlainKey a) = (s₁, .ok .loadPlainKey) :=
    dispatch_of_handler_ok p env (gated_eq_false hs _)
      (by simp only [sheHandler, hsmSheLoadPlainKey_run, hram.2])
  have hne : sheKeyId p s.clientId id ≠ sheKeyId p s.clientId p.ramKeyId :=
    fun e => hid (Fin.ext (congrArg KeyId.id e))
  have hauth : readResult env s₁.keys (sheKeyId p s₁.clientId p.ramKeyId) = .ok ⟨0, 0, a⟩ := by
    simp [s₁, readResult, hram.1]
  have htgt₁ : s₁.keys (sheKeyId p s₁.clientId id) = none ∨
      ∃ o, s₁.keys (sheKeyId p s₁.clientId id) = some o ∧
        o.flags &&& p.flagWriteProtect = 0 ∧ o.count < cid.setWidth 32 := by
    simpa only [s₁, Function.update_noteq hne] using htgt
  obtain ⟨ctx, rfl, hl⟩ := hsmSheLoadKey_of_messages p env hbe hcbc (s := s₁) hu0 hauth htgt₁ hio hmsg
  have hg₁ : gated s₁.she (.loadKey (sheM1 s₁.she.uid id p.ramKeyId) m2 m3) = false :=
    gated_eq_false hs _
  rw [run_cons_of_eq p env h₁, run, run, dispatch_keys_of_passed p env hg₁]
  show (hsmSheLoadKey p env _ m2 m3 s₁).2.keys = _
  rw [hl, loadKeyConfirm_keys, loadKeyObj_sheM2Plain p hbe]

theorem ram_key_authorises_any_slot_sample :
    let p := Platform.sample .big
    let s := Server.sampleBooted p Env.sample
    (run p Env.sample s [.loadPlainKey (.replicate 16 0x33),
        .loadKey (sheM1 (.replicate 15 7) 3 14) (sheM2Plain 1 0 (.replicate 16 0x66)) zeroBlock]).keys =
      Function.update (Function.update s.keys (sheKeyId p s.clientId p.ramKeyId)
          (some ⟨0, 0, .replicate 16 0x33⟩))
        (sheKeyId p s.clientId 3) (some
          ⟨((0 : BitVec 5).extractLsb' 1 4).setWidth 32 <<< 4 |||
            ((0 : BitVec 5).extractLsb' 0 1).setWidth 32, (1 : BitVec 28).setWidth 32,
            .replicate 16 0x66⟩) :=
  @ram_key_authorises_any_slot (Platform.sample .big) Env.sample rfl (fun _ _ _ h => h.symm)
    (Server.sampleBooted (Platform.sample .big) Env.sample) ⟨rfl, by decide⟩ (by decide) 3
    (by decide) 1 (.inl rfl) ⟨rfl, rfl, rfl⟩ ⟨rfl, rfl⟩ (.replicate 16 0x33) (.replicate 16 0x66) 0
    _ _ _ rfl

end WolfHsmShe
