import WolfHsmShe.Gate

/-! # Round trips of the AES and CMAC services -/

namespace WolfHsmShe

theorem blocks_blocks (sz : BitVec 32) : (sz - sz % 16) - (sz - sz % 16) % 16 = sz - sz % 16 := by
  have h : (sz - sz % 16) % 16 = 0#32 := by
    apply BitVec.eq_of_toNat_eq
    have := sz.isLt
    simp only [BitVec.toNat_umod, BitVec.toNat_sub, BitVec.toNat_ofNat, BitVec.ofNat_eq_ofNat,
      Nat.reducePow, Nat.reduceMod]
    omega
  rw [h, BitVec.sub_zero]

@[simp] theorem readIn_toList {n : Nat} (v : Buf n) : readIn v.toList n = v := by
  apply Subtype.ext
  show (v.toList ++ _).take n = v.toList
  simp

theorem readIn_append_left {n : Nat} (v : Buf n) (rest : List Byte) :
    readIn (v.toList ++ rest) n = v := by
  apply Subtype.ext
  show (v.toList ++ rest ++ _).take n = v.toList
  simp [List.take_append_of_le_length]

variable (p : Platform) (env : Env)

theorem hsmSheAesMode_of_blocks (op : Block → (n : Nat) → Buf n → Except Err (Buf n))
    (keyId : Nat) {sz f : BitVec 32} (hf : sz - sz % 16 = f) (data : List Byte) (s : Server) :
    hsmSheAesMode p env op keyId sz data s =
      match readResult env s.keys (sheKeyId p s.clientId keyId) with
      | .error _ => (.error (.erc .keyNotAvailable), s)
      | .ok key =>
        match op key.key f.toNat (readIn data f.toNat) with
        | .error e => (.error e, s)
        | .ok out => (.ok (.cipher f out.toList), s) := by
  subst hf
  simp only [hsmSheAesMode, readKeyOr_bind_run]
  rcases readResult env s.keys (sheKeyId p s.clientId keyId) with _ | key
  · rfl
  · simp only [call_bind_run]
    rcases op key.key (sz - sz % 16).toNat (readIn data (sz - sz % 16).toNat) with _ | out <;> rfl

theorem hsmSheAesMode_round_trip {op op' : Block → (n : Nat) → Buf n → Except Err (Buf n)}
    (hinv : ∀ k n x y, op k n x = .ok y → op' k n y = .ok x) {keyId : Nat} {sz : BitVec 32}
    {data : List Byte} {s s' : Server} {field : BitVec 32} {out : List Byte}
    (h : hsmSheAesMode p env op keyId sz data s = (.ok (.cipher field out), s')) :
    s' = s ∧ hsmSheAesMode p env op' keyId field out s =
      (.ok (.cipher field (readIn data field.toNat).toList), s) := by
  rw [hsmSheAesMode_of_blocks p env op keyId rfl] at h
  rcases hk : readResult env s.keys (sheKeyId p s.clientId keyId) with _ | key <;>
    simp only [hk] at h
  · cases h
  rcases hc : op key.key (sz - sz % 16).toNat (readIn data (sz - sz % 16).toNat) with _ | y <;>
    simp only [hc] at h
  · cases h
  cases h
  refine ⟨rfl, ?_⟩
  rw [hsmSheAesMode_of_blocks p env op' keyId (blocks_blocks sz), hk]
  dsimp only
  rw [readIn_toList, hinv _ _ _ _ hc]

variable {p env}

theorem gated_eq_false {she : She} (hs : she.uidSet = true ∧ she.sbState = .success)
    (req : Request) : gated she req = false := by
  simp [gated, hs.1, hs.2]

variable (p env)

/-- Past secure boot, `ENC_*` changes nothing and `DEC_*` of its reply returns the whole blocks
of the plaintext. -/
theorem enc_then_dec_round_trip
    (hecb : ∀ k n x y, env.ecbEncrypt k n x = .ok y → env.ecbDecrypt k n y = .ok x)
    (hcbc : ∀ k iv n x y, env.cbcEncrypt k iv n x = .ok y → env.cbcDecrypt k iv n y = .ok x)
    {s : Server} (hs : s.she.uidSet = true ∧ s.she.sbState = .success) (keyId : Nat)
    (sz : BitVec 32) (iv : Block) (data : List Byte) {field : BitVec 32} {out : List Byte} :
    ((whServerHandleSheRequest p env s (.encEcb keyId sz data)).2 = .ok (.cipher field out) →
      (whServerHandleSheRequest p env s (.encEcb keyId sz data)).1 = s ∧
      (whServerHandleSheRequest p env s (.decEcb keyId field out)).2 =
        .ok (.cipher field (readIn data field.toNat).toList)) ∧
    ((whServerHandleSheRequest p env s (.encCbc keyId sz iv data)).2 = .ok (.cipher field out) →
      (whServerHandleSheRequest p env s (.encCbc keyId sz iv data)).1 = s ∧
      (whServerHandleSheRequest p env s (.decCbc keyId field iv out)).2 =
        .ok (.cipher field (readIn data field.toNat).toList)) := by
  refine ⟨fun henc => ?_, fun henc => ?_⟩
  · obtain ⟨-, hh⟩ := handler_of_dispatch_ok p env henc
    obtain ⟨e, hdec⟩ := hsmSheAesMode_round_trip p env hecb hh
    have hdec' : sheHandler p env (.decEcb keyId field out) s = _ := hdec
    exact ⟨e, by rw [dispatch_of_handler_ok p env (gated_eq_false hs _) hdec']⟩
  · obtain ⟨-, hh⟩ := handler_of_dispatch_ok p env henc
    obtain ⟨e, hdec⟩ := hsmSheAesMode_round_trip p env (fun k n x y => hcbc k iv n x y) hh
    have hdec' : sheHandler p env (.decCbc keyId field iv out) s = _ := hdec
    exact ⟨e, by rw [dispatch_of_handler_ok p env (gated_eq_false hs _) hdec']⟩

theorem enc_then_dec_sample :
    let p := Platform.sample .big
    let s := Server.sampleBooted p Env.sample
    let data := List.replicate 32 (0x5a : Byte)
    (∀ k n x y, Env.sample.ecbEncrypt k n x = .ok y → Env.sample.ecbDecrypt k n y = .ok x) ∧
      (∀ k iv n x y, Env.sample.cbcEncrypt k iv n x = .ok y →
        Env.sample.cbcDecrypt k iv n y = .ok x) ∧
      (s.she.uidSet = true ∧ s.she.sbState = .success) ∧
      (whServerHandleSheRequest p Env.sample s (.encEcb 1 0x20 data)).2 = .ok (.cipher 0x20 data) ∧
      (((whServerHandleSheRequest p Env.sample s (.encEcb 1 0x20 data)).2 =
          .ok (.cipher 0x20 data) →
        (whServerHandleSheRequest p Env.sample s (.encEcb 1 0x20 data)).1 = s ∧
        (whServerHandleSheRequest p Env.sample s (.decEcb 1 0x20 data)).2 =
          .ok (.cipher 0x20 (readIn data (0x20 : BitVec 32).toNat).toList)) ∧
      ((whServerHandleSheRequest p Env.sample s (.encCbc 1 0x20 zeroBlock data)).2 =
          .ok (.cipher 0x20 data) →
        (whServerHandleSheRequest p Env.sample s (.encCbc 1 0x20 zeroBlock data)).1 = s ∧
        (whServerHandleSheRequest p Env.sample s (.decCbc 1 0x20 zeroBlock data)).2 =
          .ok (.cipher 0x20 (readIn data (0x20 : BitVec 32).toNat).toList))) := by
  intro p s data
  have hecb : ∀ k n x y, Env.sample.ecbEncrypt k n x = .ok y →
      Env.sample.ecbDecrypt k n y = .ok x :=
    fun _ _ _ _ h => by cases h; rfl
  have hcbc : ∀ k iv n x y, Env.sample.cbcEncrypt k iv n x = .ok y →
      Env.sample.cbcDecrypt k iv n y = .ok x :=
    fun _ _ _ _ _ h => by cases h; rfl
  have hs : s.she.uidSet = true ∧ s.she.sbState = .success := by decide
  exact ⟨hecb, hcbc, hs, by decide,
    enc_then_dec_round_trip p Env.sample hecb hcbc hs 1 0x20 zeroBlock data⟩

/-- Past secure boot, `VERIFY_MAC` accepts the MAC that `GEN_MAC` returned for the message. -/
theorem gen_then_verify_mac
    (hmac : ∀ k m t, env.cmac k m = .ok t → env.cmacVerify k m t.toList = .ok ())
    {s : Server} (hs : s.she.uidSet = true ∧ s.she.sbState = .success) (keyId : Nat)
    (sz : BitVec 32) (data : List Byte) {mac : Block}
    (hgen : (whServerHandleSheRequest p env s (.genMac keyId sz data)).2 = .ok (.genMac mac)) :
    (whServerHandleSheRequest p env (whServerHandleSheRequest p env s (.genMac keyId sz data)).1
      (.verifyMac keyId sz 16 ((readIn data sz.toNat).toList ++ mac.toList))).2 =
      .ok (.verifyMac 0) := by
  obtain ⟨-, hh⟩ := handler_of_dispatch_ok p env hgen
  simp only [sheHandler, hsmSheGenerateMac, bind_assoc, readKeyOr_bind_run] at hh
  rcases hk : readResult env s.keys (sheKeyId p s.clientId keyId) with _ | key <;>
    simp only [hk, Prod.mk.injEq, reduceCtorEq, false_and] at hh
  rw [cmacGenerate_bind_run] at hh
  rcases hc : env.cmac key.key (readIn data sz.toNat).toList with _ | t <;>
    simp only [hc, SheM.pure_run, Prod.mk.injEq, reduceCtorEq, false_and, Except.ok.injEq,
      Resp.genMac.injEq] at hh
  obtain ⟨rfl, hpost⟩ := hh
  have hs' : (whServerHandleSheRequest p env s (.genMac keyId sz data)).1.she.uidSet = true ∧
      (whServerHandleSheRequest p env s (.genMac keyId sz data)).1.she.sbState = .success :=
    hpost ▸ hs
  have hm : (readIn t.toList (16 : BitVec 32).toNat).toList = t.toList := by
    show (t.toList ++ _).take _ = _
    simp
  have hv : ∃ s', sheHandler p env
      (.verifyMac keyId sz 16 ((readIn data sz.toNat).toList ++ t.toList))
      (whServerHandleSheRequest p env s (.genMac keyId sz data)).1 = (.ok (.verifyMac 0), s') := by
    simp only [← hpost, sheHandler, hsmSheVerifyMac, bind_assoc, readKeyOr_bind_run, hk,
      modifyShe_bind_run, call_bind_run, readIn_append_left, Mathlib.Vector.toList_length,
      List.drop_left', hm, hmac _ _ _ hc]
    exact ⟨_, rfl⟩
  obtain ⟨s', hv⟩ := hv
  rw [dispatch_of_handler_ok p env (gated_eq_false hs' _) hv]


theorem gen_then_verify_mac_sample :
    let p := Platform.sample .big
    let s := Server.sampleBooted p Env.sample
    let data := List.replicate 16 (0x5a : Byte)
    (∀ k m t, Env.sample.cmac k m = .ok t → Env.sample.cmacVerify k m t.toList = .ok ()) ∧
      (s.she.uidSet = true ∧ s.she.sbState = .success) ∧
      (whServerHandleSheRequest p Env.sample s (.genMac 1 16 data)).2 =
        .ok (.genMac (.replicate 16 0x11)) ∧
      (whServerHandleSheRequest p Env.sample
        (whServerHandleSheRequest p Env.sample s (.genMac 1 16 data)).1
        (.verifyMac 1 16 16 ((readIn data (16 : BitVec 32).toNat).toList ++
          (Mathlib.Vector.replicate 16 (0x11 : Byte)).toList))).2 = .ok (.verifyMac 0) := by
  intro p s data
  have hmac : ∀ k m t, Env.sample.cmac k m = .ok t → Env.sample.cmacVerify k m t.toList = .ok () :=
    fun _ _ _ _ => rfl
  have hs : s.she.uidSet = true ∧ s.she.sbState = .success := by decide
  have hgen : (whServerHandleSheRequest p Env.sample s (.genMac 1 16 data)).2 =
      .ok (.genMac (.replicate 16 0x11)) := by decide
  exact ⟨hmac, hs, hgen, gen_then_verify_mac p Env.sample hmac hs 1 16 data hgen⟩

/-! ## Length fields -/

/-- No handler checks a length field against the request: `ENC_ECB` and `GEN_MAC` with
`sz = 32` on one block read a second block past it. -/
theorem length_fields_unchecked :
    (whServerHandleSheRequest (Platform.sample .big) Env.sample
        (Server.sampleBooted (Platform.sample .big) Env.sample)
        (.encEcb 1 32 (List.replicate 16 0x5a))).2 =
        .ok (.cipher 32 (List.replicate 16 0x5a ++ List.replicate 16 0)) ∧
      (whServerHandleSheRequest (Platform.sample .big) Env.sample
        (Server.sampleBooted (Platform.sample .big) Env.sample)
        (.genMac 1 32 (List.replicate 16 0x5a))).1.she.sheCmac.fed =
        List.replicate 16 0x5a ++ List.replicate 16 0 := by
  decide

end WolfHsmShe
