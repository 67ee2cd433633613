import Mathlib.Data.Vector.Basic
import WolfHsmShe.Measurement

/-! # Booting an image: secure boot completes for every chunking, and `GET_STATUS` reports it -/

namespace WolfHsmShe

/-- What a host sends to boot `chunks.flatten`: `SB_INIT`, an `SB_UPDATE` a chunk, `SB_FINISH`. -/
def secureBootRequests (chunks : List (List Byte)) : List Request :=
  .secureBootInit (BitVec.ofNat 32 chunks.flatten.length) ::
    (chunks.map fun c => .secureBootUpdate (BitVec.ofNat 32 c.length) c) ++ [.secureBootFinish]

variable (p : Platform) (env : Env)

/-! ## One request at a time -/

theorem gated_secureBoot {she : She} (hu : she.uidSet = true) {req : Request}
    (hsb : req.isSecureBoot = true) : gated she req = false := by
  simp [gated, Request.bootAction, hsb, hu]

theorem dispatch_sbInit_starts {s : Server} {macKey : KeyObj}
    (hs : s.she.uidSet = true ∧ s.she.sbState = .init)
    (hkey : readResult env s.keys (sheKeyId p s.clientId p.bootMacKeyId) = .ok macKey)
    (hinit : env.cmacInit macKey.key = .ok ())
    (hupd : ∀ fed data, env.cmacUpdate macKey.key fed data = .ok ()) (sz : BitVec 32) :
    whServerHandleSheRequest p env s (.secureBootInit sz) =
      ({ s with
        she := { s.she with
          blSize := sz, cmacKeyFound := true, sbState := .update,
          sheCmac := ⟨macKey.key, List.replicate 12 0 ++ store32 p.endian sz⟩ } },
        .ok .secureBootInit) :=
  dispatch_of_handler_ok p env (gated_secureBoot hs.1 rfl)
    (by simp [sheHandler, hsmSheSecureBootInit_run, hs.2, hkey, hinit, hupd])

theorem dispatch_sbUpdate_feeds {s : Server} {k : Block} {pre c : List Byte} {n : Nat}
    (hs : s.she.uidSet = true ∧ s.she.sbState = .update)
    (hrec : s.she.blSizeReceived = BitVec.ofNat 32 n) (hctx : s.she.sheCmac = ⟨k, pre⟩)
    (hupd : ∀ fed data, env.cmacUpdate k fed data = .ok ())
    (hle : n + c.length ≤ s.she.blSize.toNat) :
    whServerHandleSheRequest p env s (.secureBootUpdate (BitVec.ofNat 32 c.length) c) =
      ({ s with
        she := { s.she with
          blSizeReceived := BitVec.ofNat 32 (n + c.length), sheCmac := ⟨k, pre ++ c⟩,
          sbState := if n + c.length = s.she.blSize.toNat then .finish else .update } },
        .ok .secureBootUpdate) := by
  have hlt := s.she.blSize.isLt
  have hsum : s.she.blSizeReceived + BitVec.ofNat 32 c.length = BitVec.ofNat 32 (n + c.length) := by
    rw [hrec, BitVec.ofNat_add_ofNat]
  have hnat : (BitVec.ofNat 32 (n + c.length)).toNat = n + c.length := by
    rw [BitVec.toNat_ofNat, Nat.mod_eq_of_lt (by omega)]
  have hin : (readIn c (BitVec.ofNat 32 c.length).toNat).toList = c := by
    rw [BitVec.toNat_ofNat, Nat.mod_eq_of_lt (by omega)]
    show (c ++ _).take _ = c
    simp
  have hfin : (BitVec.ofNat 32 (n + c.length) = s.she.blSize) ↔ n + c.length = s.she.blSize.toNat :=
    ⟨fun h => by rw [← h, hnat], fun h => BitVec.eq_of_toNat_eq (by rw [hnat, h])⟩
  refine dispatch_of_handler_ok p env (gated_secureBoot hs.1 rfl) ?_
  simp only [sheHandler, hsmSheSecureBootUpdate_run, hs.2, hsum, hctx, hupd, hin,
    BitVec.lt_def, hnat, ne_eq, not_true_eq_false, if_false, Nat.not_lt.2 hle]
  by_cases he : n + c.length = s.she.blSize.toNat <;> simp [he, hfin]

theorem dispatch_sbFinish_succeeds {s : Server} {mac : KeyObj}
    (hs : s.she.uidSet = true ∧ s.she.sbState = .finish)
    (hmac : readResult env s.keys (sheKeyId p s.clientId p.bootMac) = .ok mac)
    (hcmac : env.cmac s.she.sheCmac.key s.she.sheCmac.fed = .ok mac.key) :
    whServerHandleSheRequest p env s .secureBootFinish =
      ({ s with she := { s.she with sbState := .success } }, .ok .secureBootFinish) :=
  dispatch_of_handler_ok p env (gated_secureBoot hs.1 rfl)
    (by simp [sheHandler, hsmSheSecureBootFinish_run, hs.2, hcmac, hmac])

/-! ## The chunks -/

theorem sbUpdates_feed (cs : List (List Byte)) {s : Server} {k : Block} {pre : List Byte} {n : Nat}
    (hs : s.she.uidSet = true ∧ s.she.sbState = .update)
    (hrec : s.she.blSizeReceived = BitVec.ofNat 32 n) (hctx : s.she.sheCmac = ⟨k, pre⟩)
    (hupd : ∀ fed data, env.cmacUpdate k fed data = .ok ())
    (hsum : n + cs.flatten.length = s.she.blSize.toNat)
    (hcs : (cs ≠ [] ∧ ∀ c ∈ cs, c ≠ []) ∨ cs = [[]]) :
    (trace p env s (cs.map fun c => .secureBootUpdate (BitVec.ofNat 32 c.length) c)).map
        Step.reply = cs.map (fun _ => .ok .secureBootUpdate) ∧
      run p env s (cs.map fun c => .secureBootUpdate (BitVec.ofNat 32 c.length) c) =
        { s with
          she := { s.she with
            blSizeReceived := s.she.blSize, sheCmac := ⟨k, pre ++ cs.flatten⟩,
            sbState := .finish } } := by
  induction cs generalizing s n pre with
  | nil => simp at hcs
  | cons c cs ih =>
    simp only [List.flatten_cons, List.length_append] at hsum
    have hstep := dispatch_sbUpdate_feeds p env (c := c) hs hrec hctx hupd (by omega)
    have hbl : BitVec.ofNat 32 s.she.blSize.toNat = s.she.blSize := BitVec.ofNat_toNat _ _
    by_cases hne : cs = []
    · -- the last chunk reaches the size
      subst hne
      rw [if_pos (by simpa using hsum)] at hstep
      simp only [List.map_cons, List.map_nil, trace, run, hstep, List.flatten_cons,
        List.flatten_nil, List.append_nil, true_and]
      rw [show n + c.length = s.she.blSize.toNat by simpa using hsum, hbl]
    · -- an earlier chunk stays below it
      have hall : ∀ c' ∈ c :: cs, c' ≠ [] := by
        rcases hcs with ⟨-, h⟩ | h
        · exact h
        · exact absurd (List.cons.inj h).2 hne
      have hpos : 0 < cs.flatten.length := by
        obtain ⟨c', hc'⟩ := List.exists_mem_of_ne_nil cs hne
        have := List.length_pos.2 (hall c' (List.mem_cons_of_mem _ hc'))
        have := (List.sublist_flatten_of_mem hc').length_le
        omega
      rw [if_neg (by omega)] at hstep
      obtain ⟨ih₁, ih₂⟩ := ih (s := { s with she := { s.she with
          blSizeReceived := BitVec.ofNat 32 (n + c.length), sheCmac := ⟨k, pre ++ c⟩,
          sbState := .update } }) ⟨hs.1, rfl⟩ rfl rfl (by simp only; omega)
        (.inl ⟨hne, fun c' hc' => hall c' (List.mem_cons_of_mem _ hc')⟩)
      simp only [List.map_cons, trace, run, hstep, List.flatten_cons] at ih₁ ih₂ ⊢
      refine ⟨by rw [ih₁], ?_⟩
      rw [ih₂]
      simp [List.append_assoc]

/-! ## The whole boot -/

/-- When `BOOT_MAC` is the CMAC of `0^12`, the size and the image, every request of the boot is
answered `NO_ERROR` and the session reaches `SUCCESS`, however the image is cut. -/
theorem secure_boot_completes {s : Server} {macKey mac : KeyObj} {chunks : List (List Byte)}
    (hs : s.she.uidSet = true ∧ s.she.sbState = .init ∧ s.she.blSizeReceived = 0)
    (hkey : readResult env s.keys (sheKeyId p s.clientId p.bootMacKeyId) = .ok macKey)
    (hmac : readResult env s.keys (sheKeyId p s.clientId p.bootMac) = .ok mac)
    (hinit : env.cmacInit macKey.key = .ok ())
    (hupd : ∀ fed data, env.cmacUpdate macKey.key fed data = .ok ())
    (hchunks : (chunks ≠ [] ∧ ∀ c ∈ chunks, c ≠ []) ∨ chunks = [[]])
    (hsz : chunks.flatten.length < 2 ^ 32)
    (hboot : env.cmac macKey.key (List.replicate 12 0 ++
      store32 p.endian (BitVec.ofNat 32 chunks.flatten.length) ++ chunks.flatten) = .ok mac.key) :
    (trace p env s (secureBootRequests chunks)).map Step.reply =
        .ok .secureBootInit :: chunks.map (fun _ => .ok .secureBootUpdate) ++
          [.ok .secureBootFinish] ∧
      run p env s (secureBootRequests chunks) =
        { s with
          she := { s.she with
            blSize := BitVec.ofNat 32 chunks.flatten.length,
            blSizeReceived := BitVec.ofNat 32 chunks.flatten.length,
            cmacKeyFound := true, sbState := .success,
            sheCmac := ⟨macKey.key, List.replicate 12 0 ++
              store32 p.endian (BitVec.ofNat 32 chunks.flatten.length) ++ chunks.flatten⟩ } } := by
  set sz := BitVec.ofNat 32 chunks.flatten.length
  set t : Server := { s with
    she := { s.she with
      blSize := sz, cmacKeyFound := true, sbState := .update,
      sheCmac := ⟨macKey.key, List.replicate 12 0 ++ store32 p.endian sz⟩ } }
  set ups := chunks.map fun c => Request.secureBootUpdate (BitVec.ofNat 32 c.length) c
  have hinit' : whServerHandleSheRequest p env s (.secureBootInit sz) = (t, .ok .secureBootInit) :=
    dispatch_sbInit_starts p env ⟨hs.1, hs.2.1⟩ hkey hinit hupd sz
  obtain ⟨hu₁, hu₂⟩ := sbUpdates_feed p env chunks (s := t) ⟨hs.1, rfl⟩ (n := 0) hs.2.2 rfl hupd
    (by simp only [t, sz, BitVec.toNat_ofNat, Nat.mod_eq_of_lt hsz, Nat.zero_add]) hchunks
  have hfin := dispatch_sbFinish_succeeds p env (s := run p env t ups) (by rw [hu₂]; exact ⟨hs.1, rfl⟩)
    (by rw [hu₂]; exact hmac) (by rw [hu₂]; exact hboot)
  have hfin' := run_cons_of_eq p env hfin []
  have hreq : secureBootRequests chunks = .secureBootInit sz :: (ups ++ [.secureBootFinish]) := rfl
  rw [hreq, trace_cons_of_eq p env hinit', run_cons_of_eq p env hinit', trace_append,
    run_append, trace_cons_of_eq p env hfin, hfin', run, hu₂]
  simp only [List.map_cons, List.map_append, hu₁, trace, List.map_nil, true_and]
  simp [t]

theorem secure_boot_completes_sample :
    let p := Platform.sample .little
    let s := run p Env.sample Server.sampleBootOk [.setUid (.replicate 15 7)]
    let chunks : List (List Byte) := [[1, 2, 3], [4, 5]]
    let k : Block := .replicate 16 0x11
    (trace p Env.sample s (secureBootRequests chunks)).map Step.reply =
        .ok .secureBootInit :: chunks.map (fun _ => .ok .secureBootUpdate) ++
          [.ok .secureBootFinish] ∧
      run p Env.sample s (secureBootRequests chunks) =
        { s with
          she := { s.she with
            blSize := BitVec.ofNat 32 chunks.flatten.length,
            blSizeReceived := BitVec.ofNat 32 chunks.flatten.length,
            cmacKeyFound := true, sbState := .success,
            sheCmac := ⟨k, List.replicate 12 0 ++
              store32 p.endian (BitVec.ofNat 32 chunks.flatten.length) ++ chunks.flatten⟩ } } :=
  @secure_boot_completes _ _ _ ⟨0, 0, .replicate 16 0x11⟩ ⟨0, 0, .replicate 16 0x11⟩ _
    ⟨rfl, rfl, rfl⟩ rfl rfl rfl (fun _ _ => rfl) (.inl ⟨by decide, by decide⟩) (by decide) rfl


/-! ## Starting again -/

theorem dispatch_sbFinish_resettable {s : Server} (hu : s.she.uidSet = true) :
    ∃ she : She, (whServerHandleSheRequest p env s .secureBootFinish).1 = { s with she := she } ∧
      she.uidSet = true ∧ she.sbState ≠ .update ∧ sbReset she = sbReset s.she := by
  unfold whServerHandleSheRequest
  rcases h : hsmSheSecureBootFinish p env s with ⟨res, s'⟩
  rcases hsmSheSecureBootFinish_cases p env h with
    ⟨hi, rfl, rfl⟩ | ⟨hi, ⟨e, rfl⟩, rfl⟩ | ⟨hi, -, rfl, rfl⟩ | ⟨hi, rfl, rfl⟩ <;>
    simp only [@gated_secureBoot _ hu .secureBootFinish rfl, sheHandler, h,
      Bool.false_eq_true, if_false] <;>
    refine ⟨_, rfl, ?_⟩ <;> (try split_ifs) <;>
    simp_all [sbReset, replyErc, sheStandardErcs, Request.isSecureBoot]

theorem dispatch_sbUpdate_resets {s : Server} (hu : s.she.uidSet = true)
    (hst : s.she.sbState ≠ .update) (sz : BitVec 32) (data : List Byte) :
    whServerHandleSheRequest p env s (.secureBootUpdate sz data) =
      ({ s with she := sbReset s.she }, .error .sequenceError) := by
  simp [whServerHandleSheRequest, @gated_secureBoot _ hu (.secureBootUpdate sz data) rfl,
    sheHandler, hsmSheSecureBootUpdate_run, hst, Request.isSecureBoot, replyErc, sheStandardErcs]

/-- Secure boot can always be started again. -/
theorem secure_boot_restarts {s : Server} (hu : s.she.uidSet = true) (sz : BitVec 32)
    (data : List Byte) (reqs : List Request) :
    ((trace p env s (.secureBootFinish :: .secureBootUpdate sz data :: reqs)).map Step.reply).tail =
        .error .sequenceError :: (trace p env { s with she := sbReset s.she } reqs).map Step.reply ∧
      run p env s (.secureBootFinish :: .secureBootUpdate sz data :: reqs) =
        run p env { s with she := sbReset s.she } reqs := by
  obtain ⟨she, h₁, hu', hst, hres⟩ := dispatch_sbFinish_resettable p env hu
  have h₂ := dispatch_sbUpdate_resets p env (s := { s with she := she }) hu' hst sz data
  rw [hres] at h₂
  simp only [trace, run, List.map_cons, List.tail_cons, h₁, h₂, true_and]

theorem secure_boot_restarts_sample :
    let p := Platform.sample .little
    let s := run p Env.sample Server.sampleBootOk
      [.setUid (.replicate 15 7), .secureBootInit 5, .secureBootUpdate 3 [1, 2, 3]]
    let reqs := secureBootRequests [[1, 2, 3], [4, 5]]
    s.she.sbState = .update ∧
      (run p Env.sample s (.secureBootFinish :: .secureBootUpdate 0 [] :: reqs)).she.sbState =
        .success ∧
      ((trace p Env.sample s (.secureBootFinish :: .secureBootUpdate 0 [] :: reqs)).map
          Step.reply).tail =
        .error .sequenceError ::
          (trace p Env.sample { s with she := sbReset s.she } reqs).map Step.reply ∧
      run p Env.sample s (.secureBootFinish :: .secureBootUpdate 0 [] :: reqs) =
        run p Env.sample { s with she := sbReset s.she } reqs :=
  ⟨by decide, by decide, secure_boot_restarts _ _ (by decide) 0 [] _⟩

/-! ## What `GET_STATUS` reports -/

theorem or_and_byte (x y z : Byte) : (x ||| y) &&& z = (x &&& z) ||| (y &&& z) := by
  ext i
  simp only [BitVec.getLsbD_and, BitVec.getLsbD_or, Bool.and_or_distrib_right]

theorem ite_and_byte (c : Prop) [Decidable c] (x y : Byte) :
    (if c then x else 0) &&& y = if c then x &&& y else 0 := by
  split_ifs <;> simp

/-- Past `SET_UID`, `GET_STATUS` changes nothing, and each SREG bit it answers stands for its
part of the session: boot finished and OK, a `BOOT_MAC_KEY` found, the PRNG started. -/
theorem get_status_reports_session
    (hne : 0 ∉ [p.sregSecureBoot, p.sregBootFinished, p.sregBootOk, p.sregRndInit])
    (hdisj : [p.sregSecureBoot, p.sregBootFinished, p.sregBootOk, p.sregRndInit].Pairwise
      (fun a b => a &&& b = 0))
    {s : Server} (hr : Reachable p env s) (hu : s.she.uidSet = true) :
    ∃ r, whServerHandleSheRequest p env s .getStatus = (s, .ok (.getStatus r)) ∧
      (r &&& p.sregBootFinished ≠ 0 ↔ s.she.sbState = .success) ∧
      (r &&& p.sregBootOk ≠ 0 ↔ s.she.sbState = .success) ∧
      (r &&& p.sregSecureBoot ≠ 0 ↔ s.she.cmacKeyFound = true) ∧
      (r &&& p.sregRndInit ≠ 0 ↔ s.she.rndInited = true) := by
  have hb : BootCount s.she := Reachable.inv p env
    (fun _ _ => by simp [bootCount_iff, Server.start, She.init]) (bootCount_step p env) hr
  have hg : gated s.she .getStatus = false := by simp [gated, Request.bootAction, hu]
  refine ⟨sreg p s.she, dispatch_of_handler_ok p env hg rfl, ?_⟩
  simp only [List.mem_cons, List.not_mem_nil, or_false, not_or] at hne
  simp only [List.pairwise_cons, List.mem_cons, List.not_mem_nil, or_false, forall_eq_or_imp,
    forall_eq, List.Pairwise.nil, and_true] at hdisj
  obtain ⟨⟨h12, h13, h14⟩, ⟨h23, h24⟩, h34, -⟩ := hdisj
  have swap : ∀ {a b : Byte}, a &&& b = 0 → b &&& a = 0 := fun h => (BitVec.and_comm _ _).trans h
  have hf : s.she.sbState = .success ∨ s.she.sbState = .failure ↔ s.she.sbState = .success :=
    or_iff_left hb.not_failure
  simp only [sreg, or_and_byte, ite_and_byte, BitVec.and_self, h12, h13, h14, h23, h24, h34,
    swap h12, swap h13, swap h14, swap h23, swap h24, swap h34, ite_self, hf]
  simp
  exact ⟨fun _ => Ne.symm hne.2.1, fun _ => Ne.symm hne.2.2.1, fun _ => Ne.symm hne.1,
    fun _ => Ne.symm hne.2.2.2⟩

theorem get_status_reports_session_sample :
    let p := Platform.sample .big
    let s := Server.sampleBooted p Env.sample
    ∃ r, whServerHandleSheRequest p Env.sample s .getStatus = (s, .ok (.getStatus r)) ∧
      (r &&& p.sregBootFinished ≠ 0 ↔ s.she.sbState = .success) ∧
      (r &&& p.sregBootOk ≠ 0 ↔ s.she.sbState = .success) ∧
      (r &&& p.sregSecureBoot ≠ 0 ↔ s.she.cmacKeyFound = true) ∧
      (r &&& p.sregRndInit ≠ 0 ↔ s.she.rndInited = true) :=
  get_status_reports_session (Platform.sample .big) Env.sample (by decide) (by decide)
    (Reachable.run _ _ (.start _ _) _) (by decide)

end WolfHsmShe
