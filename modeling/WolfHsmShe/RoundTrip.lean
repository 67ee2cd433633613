import WolfHsmShe.Gate

/-! # `EXPORT_RAM_KEY` is undone by `LOAD_KEY` -/

namespace WolfHsmShe

variable (p : Platform) (env : Env)

/-! ## Decoding what the exporter encodes -/

theorem bytes_append_eq (w : BitVec 32) :
    w.extractLsb' 24 8 ++ w.extractLsb' 16 8 ++ w.extractLsb' 8 8 ++ w.extractLsb' 0 8 = w := by
  ext ⟨i, hi⟩
  simp only [BitVec.getLsbD_append, BitVec.getLsbD_extractLsb', cond_eq_if, decide_eq_true_eq]
  split_ifs <;> rw [decide_eq_true (by omega), Bool.true_and] <;> congr 1 <;> omega

theorem snoc_length (u : Buf 15) (x : Byte) : (u.toList ++ [x]).length = 16 := by
  rw [List.length_append, Mathlib.Vector.toList_length]
  rfl

theorem get_snoc (u : Buf 15) (x : Byte) (h) :
    Mathlib.Vector.get (⟨u.toList ++ [x], h⟩ : Buf 16) 15 = x :=
  List.getElem_concat_length _ _ _ (Mathlib.Vector.toList_length u).symm _

theorem slice_snoc (u : Buf 15) (x : Byte) (h) : slice (⟨u.toList ++ [x], h⟩ : Buf 16) 0 15 = u := by
  apply Subtype.ext
  simp only [slice, readIn, Mathlib.Vector.toList_mk, List.drop_zero, List.append_assoc]
  exact List.take_left' (Mathlib.Vector.toList_length u)

theorem hsmShePopId_snoc (u : Buf 15) (a b : Fin 16) (h) :
    hsmShePopId ⟨u.toList ++ [BitVec.ofNat 8 ((a.val <<< 4) ||| b.val)], h⟩ = a := by
  have : ∀ a b : Fin 16,
      ((BitVec.ofNat 8 ((a.val <<< 4) ||| b.val) &&& 0xf0) >>> 4).toNat = a.val := by decide
  rw [hsmShePopId, get_snoc]
  exact this a b

theorem hsmShePopAuthId_snoc (u : Buf 15) (a b : Fin 16) (h) :
    hsmShePopAuthId ⟨u.toList ++ [BitVec.ofNat 8 ((a.val <<< 4) ||| b.val)], h⟩ = b := by
  have : ∀ a b : Fin 16, (BitVec.ofNat 8 ((a.val <<< 4) ||| b.val) &&& 0x0f).toNat = b.val := by
    decide
  rw [hsmShePopAuthId, get_snoc]
  exact this a b

@[simp] theorem hsmShePopId_exportIds (u : Buf 15) :
    hsmShePopId ⟨u.toList ++ [exportIds p], snoc_length _ _⟩ = p.ramKeyId :=
  hsmShePopId_snoc u _ _ _

@[simp] theorem hsmShePopAuthId_exportIds (u : Buf 15) :
    hsmShePopAuthId ⟨u.toList ++ [exportIds p], snoc_length _ _⟩ = p.secretKeyId :=
  hsmShePopAuthId_snoc u _ _ _

@[simp] theorem m2Counter_exportPlain (k : Block) :
    m2Counter p.endian (exportPlain p k) = ntohl p.endian 1 <<< 4 := by
  rcases p with ⟨_ | _⟩ <;> exact bytes_append_eq _

theorem hsmShePopFlags_cons (b0 b1 b2 b3 b4 : Byte) (rest : List Byte) (h) :
    hsmShePopFlags ⟨b0 :: b1 :: b2 :: b3 :: b4 :: rest, h⟩ =
      ((b3 &&& 0x0f).setWidth 32 <<< 4) ||| ((b4 &&& 0x80).setWidth 32 >>> 7) := rfl

@[simp] theorem hsmShePopFlags_exportPlain (k : Block) : hsmShePopFlags (exportPlain p k) = 0 := by
  rcases p with ⟨_ | _⟩ <;> refine (hsmShePopFlags_cons _ _ _ _ _ _ _).trans ?_ <;> dsimp only <;>
    decide

theorem slice_key (pre : List Byte) (hpre : pre.length = 16) (k : Block) (h) :
    slice (⟨pre ++ k.toList, h⟩ : Buf 32) 16 16 = k := by
  apply Subtype.ext
  simp only [slice, readIn, Mathlib.Vector.toList_mk]
  rw [List.drop_left' hpre, List.take_left' (by simp)]
  rfl

@[simp] theorem slice_exportPlain_key (k : Block) : slice (exportPlain p k) 16 16 = k :=
  slice_key _ (by simp) k _

@[simp] theorem slice_exportPlain_pad (k : Block) :
    slice (exportPlain p k) 4 12 = Mathlib.Vector.replicate 12 0 := by
  rcases p with ⟨_ | _⟩ <;> rfl

@[simp] theorem ntohl_one_shift (e : Endian) : ntohl e 1#32 <<< 4 >>> 4 = ntohl e 1#32 := by
  cases e <;> decide

@[simp] theorem ntohl_ntohl_one_le (e : Endian) :
    ntohl e (ntohl e 1#32) ≤ ntohl e 0#32 ↔ False := by
  cases e <;> decide

/-! ## One export, one load -/

/-- The backend calls of a successful `EXPORT_RAM_KEY`, and the messages they gave. -/
structure ExportCalls (uid : Buf 15) (ks kr : Block) (m1 : Buf 16) (m2 : Buf 32) (m3 : Block)
    (m4 : Buf 32) (m5 : Block) : Prop where
  m1_eq : m1 = ⟨uid.toList ++ [exportIds p], snoc_length _ _⟩
  m2_eq : ∃ k1, aesMp16 env (ks.toList ++ sheKeyUpdateEncC) = .ok k1 ∧
    env.cbcEncrypt k1 zeroBlock 32 (exportPlain p kr) = .ok m2
  m3_eq : ∃ k2, aesMp16 env (ks.toList ++ sheKeyUpdateMacC) = .ok k2 ∧
    env.cmac k2 (m1.toList ++ m2.toList) = .ok m3
  m4_eq : ∃ k3 c, aesMp16 env (kr.toList ++ sheKeyUpdateEncC) = .ok k3 ∧
    env.aesSetKey k3 = .ok () ∧
    env.aesEncrypt k3 (counterBlock p.endian (ntohl p.endian 1 <<< 4) (.replicate 12 0)) = .ok c ∧
    m4 = sheM4 uid (exportIds p) c
  m5_eq : ∃ k4, aesMp16 env (kr.toList ++ sheKeyUpdateMacC) = .ok k4 ∧
    env.cmac k4 m4.toList = .ok m5

theorem hsmSheExportRamKey_ok {s s' : Server} {m1 : Buf 16} {m2 : Buf 32} {m3 : Block}
    {m4 : Buf 32} {m5 : Block}
    (h : hsmSheExportRamKey p env s = (.ok (.exportRamKey m1 m2 m3 m4 m5), s')) :
    ∃ secret ram, readResult env s.keys (sheKeyId p s.clientId p.secretKeyId) = .ok secret ∧
      readResult env s.keys (sheKeyId p s.clientId p.ramKeyId) = .ok ram ∧
      ExportCalls p env s.she.uid secret.key ram.key m1 m2 m3 m4 m5 := by
  simp only [hsmSheExportRamKey, bind_assoc, getShe_bind_run, check_bind_run,
    readKeyOr_bind_run, call_bind_run, cmacGenerate_bind_run, SheM.pure_run] at h
  split_ifs at h
  repeat' split at h
  all_goals cases h
  exact ⟨_, _, ‹_›, ‹_›, rfl, ⟨_, ‹_›, ‹_›⟩, ⟨_, ‹_›, ‹_›⟩, ⟨_, _, ‹_›, ‹_›, ‹_›, rfl⟩,
    ⟨_, ‹_›, ‹_›⟩⟩

/-- The client's `RAM_KEY` slot is empty or holds an unprotected key with counter 0. -/
def RamKeyFresh (s : Server) : Prop :=
  readResult env s.keys (sheKeyId p s.clientId p.ramKeyId) = .error .notFound ∨
    ∃ o, readResult env s.keys (sheKeyId p s.clientId p.ramKeyId) = .ok o ∧
      o.flags &&& p.flagWriteProtect = 0 ∧ o.count = 0

theorem hsmSheLoadKey_of_exportCalls {R : Server} {u : Buf 15} {ks kr : Block} {m1 : Buf 16}
    {m2 : Buf 32} {m3 : Block} {m4 : Buf 32} {m5 : Block} {o : KeyObj}
    (hc : ExportCalls p env u ks kr m1 m2 m3 m4 m5)
    (hcbc : ∀ k x y, env.cbcEncrypt k zeroBlock 32 x = .ok y → env.cbcDecrypt k zeroBlock 32 y = .ok x)
    (hsec : readResult env R.keys (sheKeyId p R.clientId p.secretKeyId) = .ok o) (hks : o.key = ks)
    (huid : R.she.uid = u) (hu0 : u ≠ .replicate 15 0) (hfresh : RamKeyFresh p env R)
    (hcache : env.cacheFault (sheKeyId p R.clientId p.ramKeyId) = none) :
    (hsmSheLoadKey p env m1 m2 m3 R).1 = .ok (.loadKey m4 m5) ∧
      (hsmSheLoadKey p env m1 m2 m3 R).2.keys (sheKeyId p R.clientId p.ramKeyId) =
        some ⟨0, ntohl p.endian 1, kr⟩ := by
  obtain ⟨rfl, ⟨k1, hk1, hm2⟩, ⟨k2, hk2, hm3⟩, ⟨k3, c, hk3, hset, henc, rfl⟩, ⟨k4, hk4, hm5⟩⟩ := hc
  subst hks huid
  have hdec := hcbc _ _ _ hm2
  clear hcbc hm2
  simp at hm3 hu0 henc
  rcases hfresh with hr | ⟨t, hr, hwp, hcnt⟩ <;>
    simp [*, hsmSheLoadKey, loadKeyDecrypt, loadKeyCheck, loadKeyWrite, loadKeyConfirm,
      isNotFound, targetMeta, uidRejected, slice_snoc, cacheKey, get_snoc]

/-- `LOAD_KEY` of an exported `M1, M2, M3` on a receiver with the same UID and `SECRET_KEY` and a
fresh RAM slot replies the exported `M4` and `M5` and installs the RAM key. -/
theorem export_then_load_key_round_trip {S R : Server} (hR : Reachable p env R)
    (hRb : R.she.sbState = .success)
    {u : Buf 15} (hSu : S.she.uid = u) (hRu : R.she.uid = u) (hu0 : u ≠ .replicate 15 0)
    (hsecret : (readResult env R.keys (sheKeyId p R.clientId p.secretKeyId)).map KeyObj.key =
      (readResult env S.keys (sheKeyId p S.clientId p.secretKeyId)).map KeyObj.key)
    {k : Block} (hram : (S.keys (sheKeyId p S.clientId p.ramKeyId)).map KeyObj.key = some k)
    (hfresh : RamKeyFresh p env R)
    (hcache : env.cacheFault (sheKeyId p R.clientId p.ramKeyId) = none)
    (hcbc : ∀ k x y, env.cbcEncrypt k zeroBlock 32 x = .ok y → env.cbcDecrypt k zeroBlock 32 y = .ok x)
    {m1 : Buf 16} {m2 : Buf 32} {m3 : Block} {m4 : Buf 32} {m5 : Block}
    (hexp : (whServerHandleSheRequest p env S .exportRamKey).2 = .ok (.exportRamKey m1 m2 m3 m4 m5)) :
    (whServerHandleSheRequest p env R (.loadKey m1 m2 m3)).2 = .ok (.loadKey m4 m5) ∧
      (whServerHandleSheRequest p env R (.loadKey m1 m2 m3)).1.keys
        (sheKeyId p R.clientId p.ramKeyId) = some ⟨0, ntohl p.endian 1, k⟩ := by
  obtain ⟨secret, ram, hsec, hr, hc⟩ :=
    hsmSheExportRamKey_ok p env (handler_of_dispatch_ok p env hexp).2
  have hk : ram.key = k := by
    simpa [(readResult_eq_ok env hr).2] using hram
  rw [hsec] at hsecret
  obtain ⟨o, ho, hok⟩ : ∃ o, readResult env R.keys (sheKeyId p R.clientId p.secretKeyId) = .ok o ∧
      o.key = secret.key := by
    rcases h : readResult env R.keys (sheKeyId p R.clientId p.secretKeyId) with _ | o <;>
      simp_all [Except.map]
  subst hSu hk
  have hl := hsmSheLoadKey_of_exportCalls p env hc hcbc ho hok hRu hu0 hfresh hcache
  have hh : sheHandler p env (.loadKey m1 m2 m3) R =
      (.ok (.loadKey m4 m5), (hsmSheLoadKey p env m1 m2 m3 R).2) := Prod.ext hl.1 rfl
  rw [dispatch_of_handler_ok p env (gated_eq_false_of_success p env hR hRb _) hh]
  exact ⟨rfl, hl.2⟩

def sampleSharedSecret : KeyStore := fun id =>
  if id = ⟨1, 0, 0⟩ ∨ id = ⟨1, 1, 0⟩ then some ⟨0, 0, .replicate 16 0x44⟩ else none

def Server.sampleExporter : Server :=
  run (Platform.sample .little) Env.sample (Server.start 0 sampleSharedSecret)
    [.setUid (.replicate 15 7), .secureBootInit 0, .loadPlainKey (.replicate 16 0x5a)]

def Server.sampleReceiver : Server :=
  run (Platform.sample .little) Env.sample (Server.start 1 sampleSharedSecret)
    [.setUid (.replicate 15 7), .secureBootInit 0]

theorem export_then_load_key_sample :
    let p := Platform.sample .little
    let m1 : Buf 16 := ⟨(Mathlib.Vector.replicate 15 7).toList ++ [exportIds p], snoc_length _ _⟩
    let m2 := exportPlain p (.replicate 16 0x5a)
    let m4 := sheM4 (.replicate 15 7) (exportIds p)
      (counterBlock p.endian (ntohl p.endian 1 <<< 4) (.replicate 12 0))
    (whServerHandleSheRequest p Env.sample Server.sampleExporter .exportRamKey).2 =
        .ok (.exportRamKey m1 m2 zeroBlock m4 zeroBlock) ∧
      (whServerHandleSheRequest p Env.sample Server.sampleReceiver (.loadKey m1 m2 zeroBlock)).2 =
        .ok (.loadKey m4 zeroBlock) ∧
      (whServerHandleSheRequest p Env.sample Server.sampleReceiver (.loadKey m1 m2 zeroBlock)).1.keys
        ⟨1, 1, 14⟩ = some ⟨0, ntohl p.endian 1, .replicate 16 0x5a⟩ := by
  have hexp : (whServerHandleSheRequest (Platform.sample .little) Env.sample Server.sampleExporter
      .exportRamKey).2 = .ok (.exportRamKey
        ⟨(Mathlib.Vector.replicate 15 7).toList ++ [exportIds (Platform.sample .little)], snoc_length _ _⟩
        (exportPlain (Platform.sample .little) (.replicate 16 0x5a)) zeroBlock
        (sheM4 (.replicate 15 7) (exportIds (Platform.sample .little))
          (counterBlock .little (ntohl .little 1 <<< 4) (.replicate 12 0))) zeroBlock) := by
    decide
  exact ⟨hexp, export_then_load_key_round_trip (S := Server.sampleExporter)
    (R := Server.sampleReceiver) (u := .replicate 15 7) (k := .replicate 16 0x5a) _ _
    (Reachable.run _ _ (.start _ _) _) (by decide) (by decide)
    (by decide) (by decide) rfl (by decide) (.inl rfl) rfl (fun _ _ _ h => h.symm) hexp⟩

end WolfHsmShe
