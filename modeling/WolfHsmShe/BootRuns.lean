import WolfHsmShe.Frame

/-!
# Runs of secure boot

The count is a 32-bit word, and the dispatcher's reset turns every failed `SB_*` into `INIT`.
-/

namespace WolfHsmShe

variable (p : Platform) (env : Env)

/-! ## The secure-boot fields between calls -/

/-- The secure-boot fields between calls: the count fits `sbState`, which is never `FAILURE`. -/
structure BootCount (she : She) : Prop where
  init : she.sbState = .init → she.blSizeReceived = 0
  update : she.sbState = .update → she.blSizeReceived ≤ she.blSize
  finish : she.sbState = .finish → she.blSizeReceived = she.blSize
  not_failure : she.sbState ≠ .failure

theorem bootCount_iff (she : She) :
    BootCount she ↔ match she.sbState with
      | .init => she.blSizeReceived = 0
      | .update => she.blSizeReceived ≤ she.blSize
      | .finish => she.blSizeReceived = she.blSize
      | .success => True
      | .failure => False := by
  constructor
  · rintro ⟨h1, h2, h3, h4⟩
    split <;> simp_all
  · intro h
    exact ⟨fun e => by simp_all, fun e => by simp_all, fun e => by simp_all,
      fun e => by simp_all⟩

theorem BootCount.of_eq {she she' : She} (h : BootCount she) (hs : she'.sbState = she.sbState)
    (hb : she'.blSize = she.blSize) (hr : she'.blSizeReceived = she.blSizeReceived) :
    BootCount she' := by
  rw [bootCount_iff] at h ⊢
  rwa [hs, hb, hr]

theorem bootCount_sbReset (she : She) : BootCount (sbReset she) := by
  simp [bootCount_iff, sbReset]

theorem Request.boot_not_mem_regions {req : Request} (h : req.isSecureBoot = false) :
    Region.boot ∉ req.regions := by
  cases req <;> simp_all [Request.isSecureBoot, Request.regions]

theorem replyErc_eq_noSecureBoot {e : Err} (h : replyErc e = .noSecureBoot) :
    e = .erc .noSecureBoot := by
  cases e with
  | erc c => by_cases hc : c ∈ sheStandardErcs <;> simp_all [replyErc]
  | _ => simp [replyErc] at h

theorem sheHandler_bootCount {s : Server} {req : Request} (hsb : req.isSecureBoot = true)
    (h : BootCount s.she)
    (hk : ∀ e, (sheHandler p env req s).1 = .error e → e = .erc .noSecureBoot) :
    BootCount (sheHandler p env req s).2.she := by
  rcases hr : sheHandler p env req s with ⟨res, s'⟩
  rw [hr] at hk
  dsimp only at hk ⊢
  cases req <;> simp only [Request.isSecureBoot, Bool.false_eq_true] at hsb <;>
    simp only [sheHandler] at hr
  case secureBootInit =>
    rcases hsmSheSecureBootInit_cases p env hr with
      ⟨-, -, rfl⟩ | ⟨-, -, -, rfl⟩ | ⟨hi, _, _, -, rfl⟩ | ⟨hi, _, -, -, rfl⟩
    · exact h
    · simp [bootCount_iff]
    · simp [bootCount_iff, hi, h.init hi]
    · simp [bootCount_iff, h.init hi, BitVec.le_def]
  case secureBootUpdate sz data =>
    rcases hsmSheSecureBootUpdate_cases env hr with
      ⟨-, -, rfl⟩ | ⟨hi, e, rfl, ⟨-, rfl⟩ | ⟨hl, -⟩, rfl⟩ | ⟨hi, hl, -, rfl⟩
    · exact h
    · simpa using hk _ rfl
    · simp [bootCount_iff, hi, BitVec.not_lt.1 hl]
    · by_cases he : s.she.blSizeReceived + sz = s.she.blSize <;>
        simp [bootCount_iff, he, BitVec.not_lt.1 hl]
  case secureBootFinish =>
    rcases hsmSheSecureBootFinish_cases p env hr with
      ⟨-, -, rfl⟩ | ⟨-, -, rfl⟩ | ⟨-, -, -, rfl⟩ | ⟨-, rfl, -⟩
    · exact h
    · exact h
    · simp [bootCount_iff]
    · simpa using hk _ rfl

theorem dispatch_secureBoot {s : Server} {req : Request} (hsb : req.isSecureBoot = true) :
    (whServerHandleSheRequest p env s req).1 = s ∨
      (whServerHandleSheRequest p env s req).1.she = sbReset (sheHandler p env req s).2.she ∨
      ((∀ e, (sheHandler p env req s).1 = .error e → e = .erc .noSecureBoot) ∧
        (whServerHandleSheRequest p env s req).1 = (sheHandler p env req s).2) := by
  unfold whServerHandleSheRequest
  split
  · exact .inl rfl
  rcases hr : sheHandler p env req s with ⟨e | r, s₁⟩ <;> dsimp only
  · split_ifs with he
    · exact .inr (.inl rfl)
    · simp only [hsb, true_and, not_not] at he
      exact .inr (.inr ⟨fun e' he' => (by cases he'; exact replyErc_eq_noSecureBoot he), rfl⟩)
  · exact .inr (.inr ⟨fun e' he' => (by cases he'), rfl⟩)

theorem bootCount_step (s : Server) (req : Request) (h : BootCount s.she) :
    BootCount (whServerHandleSheRequest p env s req).1.she := by
  cases hsb : req.isSecureBoot
  · obtain ⟨-, hb, -⟩ := (dispatch_confined p env s req).she_eq
    obtain ⟨h1, h2, h3, -⟩ := hb (Request.boot_not_mem_regions hsb)
    exact h.of_eq h1 h2 h3
  rcases dispatch_secureBoot p env hsb with e | e | ⟨hk, e⟩ <;> rw [e]
  · exact h
  · exact bootCount_sbReset _
  · exact sheHandler_bootCount p env hsb h hk

/-- Between calls of the dispatcher the count fits `sbState`, which is never `FAILURE`. -/
theorem bootCount_reachable {s : Server} (h : Reachable p env s) : BootCount s.she :=
  Reachable.inv p env (fun _ _ => by simp [bootCount_iff, Server.start, She.init])
    (fun s req hs => bootCount_step p env s req hs) h

theorem bootCount_after_setUid :
    Reachable (Platform.sample .big) Env.sample
        (whServerHandleSheRequest (Platform.sample .big) Env.sample (Server.start 0 fun _ => none)
          (.setUid (.replicate 15 7))).1 ∧
      BootCount (whServerHandleSheRequest (Platform.sample .big) Env.sample
        (Server.start 0 fun _ => none) (.setUid (.replicate 15 7))).1.she :=
  have h := Reachable.step (.setUid (.replicate 15 7)) (.start 0 fun _ => none)
  ⟨h, bootCount_reachable (Platform.sample .big) Env.sample h⟩

/-! ## How `SUCCESS` is reached -/

theorem sheHandler_success {s : Server} {req : Request} (h0 : s.she.sbState ≠ .success)
    (h1 : (sheHandler p env req s).2.she.sbState = .success) :
    ((∃ sz, req = .secureBootInit sz) ∧ s.she.sbState = .init ∧
        ∃ e, readResult env s.keys (sheKeyId p s.clientId p.bootMacKeyId) = .error e) ∨
      (req = .secureBootFinish ∧ s.she.sbState = .finish ∧
        ∃ mac, readResult env s.keys (sheKeyId p s.clientId p.bootMac) = .ok mac ∧
          env.cmac s.she.sheCmac.key s.she.sheCmac.fed = .ok mac.key) := by
  cases hsb : req.isSecureBoot
  · obtain ⟨-, hb, -⟩ := (sheHandler_confined p env req s).she_eq
    exact absurd ((hb (Request.boot_not_mem_regions hsb)).1 ▸ h1) h0
  rcases hr : sheHandler p env req s with ⟨res, s'⟩
  rw [hr] at h1
  dsimp only at h1
  cases req <;> simp only [Request.isSecureBoot, Bool.false_eq_true] at hsb <;>
    simp only [sheHandler] at hr
  case secureBootInit sz =>
    rcases hsmSheSecureBootInit_cases p env hr with
      ⟨-, -, rfl⟩ | ⟨hi, he, -, rfl⟩ | ⟨-, _, _, -, rfl⟩ | ⟨-, _, -, -, rfl⟩
    · exact absurd h1 h0
    · exact .inl ⟨⟨sz, rfl⟩, hi, he⟩
    · exact absurd h1 h0
    · simp at h1
  case secureBootUpdate =>
    rcases hsmSheSecureBootUpdate_cases env hr with ⟨-, -, rfl⟩ | ⟨-, -, -, -, rfl⟩ | ⟨-, -, -, rfl⟩
    · exact absurd h1 h0
    · exact absurd h1 h0
    · dsimp only at h1
      split_ifs at h1
  case secureBootFinish =>
    rcases hsmSheSecureBootFinish_cases p env hr with
      ⟨-, -, rfl⟩ | ⟨-, -, rfl⟩ | ⟨hi, hmac, -, -⟩ | ⟨-, -, rfl⟩
    · exact absurd h1 h0
    · exact absurd h1 h0
    · exact .inr ⟨rfl, hi, hmac⟩
    · simp at h1

theorem handler_success_of_dispatch {s : Server} {req : Request} (h0 : s.she.sbState ≠ .success)
    (h1 : (whServerHandleSheRequest p env s req).1.she.sbState = .success) :
    (sheHandler p env req s).2.she.sbState = .success := by
  unfold whServerHandleSheRequest at h1
  split_ifs at h1
  · exact absurd h1 h0
  split at h1 <;> rename_i hr <;> rw [hr]
  · exact h1
  · dsimp only at h1
    split_ifs at h1
    · simp [sbReset] at h1
    · exact h1

/-- Along any run, `SUCCESS` comes only from an `SB_INIT` that cannot read `BOOT_MAC_KEY`,
or from an `SB_FINISH` whose CMAC of the measurement equals `BOOT_MAC`. -/
theorem sb_success_verified_or_skipped (s : Server) (reqs : List Request) :
    ∀ st ∈ trace p env s reqs, st.pre.she.sbState ≠ .success → st.post.she.sbState = .success →
      ((∃ sz, st.req = .secureBootInit sz) ∧ st.pre.she.sbState = .init ∧
          ∃ e, readResult env st.pre.keys (sheKeyId p st.pre.clientId p.bootMacKeyId) = .error e) ∨
        (st.req = .secureBootFinish ∧ st.pre.she.sbState = .finish ∧
          ∃ mac, readResult env st.pre.keys (sheKeyId p st.pre.clientId p.bootMac) = .ok mac ∧
            env.cmac st.pre.she.sheCmac.key st.pre.she.sheCmac.fed = .ok mac.key) := by
  intro st hst h0 h1
  have hrun := trace_step p env hst
  rw [show st.post = _ from congrArg Prod.fst hrun.symm] at h1
  exact sheHandler_success p env h0 (handler_success_of_dispatch p env h0 h1)

theorem sb_success_skipped_without_key :
    let p := Platform.sample .little
    let s := (whServerHandleSheRequest p Env.sample (Server.start 0 fun _ => none)
      (.setUid (.replicate 15 7))).1
    let st : Step := ⟨s, .secureBootInit 0x100,
      (whServerHandleSheRequest p Env.sample s (.secureBootInit 0x100)).1,
      (whServerHandleSheRequest p Env.sample s (.secureBootInit 0x100)).2⟩
    st ∈ trace p Env.sample s [.secureBootInit 0x100] ∧ st.pre.she.sbState ≠ .success ∧
      st.post.she.sbState = .success ∧
      (((∃ sz, st.req = .secureBootInit sz) ∧ st.pre.she.sbState = .init ∧
          ∃ e, readResult Env.sample st.pre.keys (sheKeyId p st.pre.clientId p.bootMacKeyId) =
            .error e) ∨
        (st.req = .secureBootFinish ∧ st.pre.she.sbState = .finish ∧
          ∃ mac, readResult Env.sample st.pre.keys (sheKeyId p st.pre.clientId p.bootMac) =
              .ok mac ∧
            Env.sample.cmac st.pre.she.sheCmac.key st.pre.she.sheCmac.fed = .ok mac.key)) := by
  intro p s st
  have hm : st ∈ trace p Env.sample s [.secureBootInit 0x100] := List.mem_cons_self _ _
  have h0 : st.pre.she.sbState ≠ .success := by decide
  have h1 : st.post.she.sbState = .success := by decide
  exact ⟨hm, h0, h1, sb_success_verified_or_skipped p Env.sample s _ st hm h0 h1⟩

/-! ## The secure-boot machine -/

/-- The secure-boot machine, each edge labelled by the request and the reply that take it. -/
inductive SbStep : Request → Reply → SbState → SbState → Prop
  | stay (req : Request) (r : Reply) (a : SbState) : SbStep req r a a
  | reset {req : Request} {e : Erc} (a : SbState) :
      req.isSecureBoot = true → e ≠ .noSecureBoot → SbStep req (.error e) a .init
  | start (sz : BitVec 32) : SbStep (.secureBootInit sz) (.ok .secureBootInit) .init .update
  | skip (sz : BitVec 32) : SbStep (.secureBootInit sz) (.error .noSecureBoot) .init .success
  | complete (sz : BitVec 32) (data : List Byte) :
      SbStep (.secureBootUpdate sz data) (.ok .secureBootUpdate) .update .finish
  | verify : SbStep .secureBootFinish (.ok .secureBootFinish) .finish .success

theorem sheHandler_sbStep {s s' : Server} {req : Request} {res : Except Err Resp} {r : Reply}
    (hsb : req.isSecureBoot = true) (h : sheHandler p env req s = (res, s'))
    (hok : ∀ x, res = .ok x → r = .ok x)
    (herr : ∀ e, res = .error e → e = .erc .noSecureBoot ∧ r = .error .noSecureBoot) :
    SbStep req r s.she.sbState s'.she.sbState := by
  cases req <;> simp only [Request.isSecureBoot, Bool.false_eq_true] at hsb <;>
    simp only [sheHandler] at h
  case secureBootInit sz =>
    rcases hsmSheSecureBootInit_cases p env h with
      ⟨-, -, rfl⟩ | ⟨hi, -, rfl, rfl⟩ | ⟨-, _, _, -, rfl⟩ | ⟨hi, _, -, rfl, rfl⟩
    · exact .stay ..
    · rw [(herr _ rfl).2]
      exact hi ▸ .skip sz
    · exact .stay ..
    · rw [hok _ rfl]
      exact hi ▸ .start sz
  case secureBootUpdate sz data =>
    rcases hsmSheSecureBootUpdate_cases env h with
      ⟨-, -, rfl⟩ | ⟨-, -, -, -, rfl⟩ | ⟨hi, -, rfl, rfl⟩
    · exact .stay ..
    · exact .stay ..
    · rw [hok _ rfl]
      dsimp only
      split_ifs
      · exact hi ▸ .complete sz data
      · exact hi ▸ .stay ..
  case secureBootFinish =>
    rcases hsmSheSecureBootFinish_cases p env h with
      ⟨-, -, rfl⟩ | ⟨-, -, rfl⟩ | ⟨hi, -, rfl, rfl⟩ | ⟨-, rfl, -⟩
    · exact .stay ..
    · exact .stay ..
    · rw [hok _ rfl]
      exact hi ▸ .verify
    · cases (herr _ rfl).1

theorem dispatch_sbStep (s : Server) (req : Request) :
    SbStep req (whServerHandleSheRequest p env s req).2 s.she.sbState
      (whServerHandleSheRequest p env s req).1.she.sbState := by
  cases hsb : req.isSecureBoot
  · obtain ⟨-, hb, -⟩ := (dispatch_confined p env s req).she_eq
    rw [(hb (Request.boot_not_mem_regions hsb)).1]
    exact .stay ..
  unfold whServerHandleSheRequest
  split
  · exact .stay ..
  rcases h : sheHandler p env req s with ⟨e | x, s'⟩ <;> dsimp only
  · split_ifs with he
    · exact .reset _ hsb he.2
    · obtain rfl := replyErc_eq_noSecureBoot (by simpa [hsb] using he)
      exact sheHandler_sbStep p env hsb h (fun _ h => by cases h)
        (fun _ h => by cases h; exact ⟨rfl, by simp [replyErc, sheStandardErcs]⟩)
  · exact sheHandler_sbStep p env hsb h (fun _ h => by cases h; rfl) (fun _ h => by cases h)

/-- Over any run, each call moves `sbState` along the `SbStep` edge of its request and reply. -/
theorem sb_runs_refine_machine (s : Server) (reqs : List Request) :
    ∀ st ∈ trace p env s reqs, SbStep st.req st.reply st.pre.she.sbState st.post.she.sbState := by
  intro st hst
  have h := dispatch_sbStep p env st.pre st.req
  rwa [trace_step p env hst] at h

theorem sb_runs_refine_sample :
    let p := Platform.sample .little
    let s := (whServerHandleSheRequest p Env.sample (Server.start 0 fun _ => none)
      (.setUid (.replicate 15 7))).1
    let st : Step := ⟨s, .secureBootInit 0x100,
      (whServerHandleSheRequest p Env.sample s (.secureBootInit 0x100)).1,
      (whServerHandleSheRequest p Env.sample s (.secureBootInit 0x100)).2⟩
    st ∈ trace p Env.sample s [.secureBootInit 0x100] ∧ st.pre.she.sbState = .init ∧
      st.post.she.sbState = .success ∧ st.reply = .error .noSecureBoot ∧
      SbStep st.req st.reply st.pre.she.sbState st.post.she.sbState := by
  intro p s st
  have hm : st ∈ trace p Env.sample s [.secureBootInit 0x100] := List.mem_cons_self _ _
  exact ⟨hm, by decide, by decide, by decide, sb_runs_refine_machine p Env.sample s _ st hm⟩

/-! ## The count wraps -/

/-- A chunk that carries `blSizeReceived` past `2 ^ 32` passes the size check and wraps the
count, which then falls `2 ^ 32` short of the bytes accepted. -/
theorem sb_update_count_wraps (s : Server) (sz : BitVec 32) (data : List Byte)
    (hst : s.she.sbState = .update) (huid : s.she.uidSet = true)
    (hwrap : 4294967296 ≤ s.she.blSizeReceived.toNat + sz.toNat)
    (hle : s.she.blSizeReceived + sz ≤ s.she.blSize)
    (hcmac : env.cmacUpdate s.she.sheCmac.key s.she.sheCmac.fed (readIn data sz.toNat).toList =
      .ok ()) :
    (whServerHandleSheRequest p env s (.secureBootUpdate sz data)).2 = .ok .secureBootUpdate ∧
    (whServerHandleSheRequest p env s (.secureBootUpdate sz data)).1.she.blSizeReceived.toNat +
      4294967296 = s.she.blSizeReceived.toNat + sz.toNat ∧
    s.she.blSize.toNat < s.she.blSizeReceived.toNat + sz.toNat := by
  have hg : gated s.she (.secureBootUpdate sz data) = false := by
    simp [gated, huid, Request.bootAction, Request.isSecureBoot]
  have hn : ¬ s.she.blSize < s.she.blSizeReceived + sz := BitVec.not_lt.2 hle
  have hr := s.she.blSizeReceived.isLt
  have hz := sz.isLt
  have hb := s.she.blSize.isLt
  refine ⟨?_, ?_, by omega⟩
  · simp [whServerHandleSheRequest, hg, sheHandler, hsmSheSecureBootUpdate_run, hst, hn, hcmac]
  · simp [whServerHandleSheRequest, hg, sheHandler, hsmSheSecureBootUpdate_run, hst, hn, hcmac]
    omega

def Server.sampleBootKeys : Server :=
  Server.start 0 fun id =>
    if id = ⟨1, 0, 2⟩ then some ⟨0, 0, .replicate 16 0x11⟩
    else if id = ⟨1, 0, 3⟩ then some ⟨0, 0, .replicate 16 0x22⟩ else none

theorem sb_update_count_wraps_sample :
    let s := run (Platform.sample .little) Env.sample Server.sampleBootKeys
      [.setUid (.replicate 15 7), .secureBootInit 0x100, .secureBootUpdate 0x80 []]
    let r := whServerHandleSheRequest (Platform.sample .little) Env.sample s
      (.secureBootUpdate 0xFFFFFFFF [])
    s.she.sbState = .update ∧ s.she.uidSet = true ∧
      4294967296 ≤ s.she.blSizeReceived.toNat + (0xFFFFFFFF : BitVec 32).toNat ∧
      s.she.blSizeReceived + 0xFFFFFFFF ≤ s.she.blSize ∧
      Env.sample.cmacUpdate s.she.sheCmac.key s.she.sheCmac.fed
        (readIn [] (0xFFFFFFFF : BitVec 32).toNat).toList = .ok () ∧
      r.2 = .ok .secureBootUpdate ∧
      r.1.she.blSizeReceived.toNat + 4294967296 =
        s.she.blSizeReceived.toNat + (0xFFFFFFFF : BitVec 32).toNat ∧
      s.she.blSize.toNat < s.she.blSizeReceived.toNat + (0xFFFFFFFF : BitVec 32).toNat :=
  ⟨by decide, by decide, by decide, by decide, rfl,
    sb_update_count_wraps _ _ _ _ _ (by decide) (by decide) (by decide) (by decide) rfl⟩

/-! ## Secure boot skipped, and `FAILURE` reset -/

def Env.sampleFaultyBootKey : Env :=
  { Env.sample with readFault := fun id => if id = ⟨1, 0, 2⟩ then some (.code (-1)) else none }

def Server.sampleFaultyBoot : Server :=
  run (Platform.sample .little) Env.sampleFaultyBootKey Server.sampleBootKeys
    [.setUid (.replicate 15 7), .secureBootInit 0x100]

/-- `SB_INIT` on a store that fails to read `BOOT_MAC_KEY` skips secure boot: `SUCCESS`. -/
theorem sb_skipped_on_read_fault :
    Server.sampleFaultyBoot.she.sbState = .success ∧
      Server.sampleFaultyBoot.she.cmacKeyFound = false ∧
      Server.sampleFaultyBoot.keys ⟨1, 0, 2⟩ ≠ none ∧
      (readResult Env.sampleFaultyBootKey Server.sampleFaultyBoot.keys ⟨1, 0, 2⟩).toBool = false ∧
      isNotFound (readResult Env.sampleFaultyBootKey Server.sampleFaultyBoot.keys ⟨1, 0, 2⟩) =
        false := by
  decide

def sampleBootRetry : List Request :=
  [.setUid (.replicate 15 7), .secureBootInit 0x10, .secureBootUpdate 0x10 [], .secureBootFinish,
    .secureBootInit 0x10]

def sampleBootRepeat : List Request :=
  [.setUid (.replicate 15 7), .secureBootInit 0x10, .secureBootInit 0x10]

/-- A wrong `BOOT_MAC` leaves `INIT`, not `FAILURE`, and a new `SB_INIT` measures again; an
`SB_INIT` after a skipped boot replies `SEQUENCE_ERROR` and takes `SUCCESS` back to `INIT`. -/
theorem sb_final_states_reset_to_init :
    (trace (Platform.sample .little) Env.sample Server.sampleBootKeys sampleBootRetry).map
        (·.reply) = [.ok .setUid, .ok .secureBootInit, .ok .secureBootUpdate,
        .error .generalError, .ok .secureBootInit] ∧
      (trace (Platform.sample .little) Env.sample Server.sampleBootKeys sampleBootRetry).map
        (·.post.she.sbState) = [.init, .update, .finish, .init, .update] ∧
      (trace (Platform.sample .little) Env.sample (Server.start 0 fun _ => none)
        sampleBootRepeat).map (·.reply) =
        [.ok .setUid, .error .noSecureBoot, .error .sequenceError] ∧
      (trace (Platform.sample .little) Env.sample (Server.start 0 fun _ => none)
        sampleBootRepeat).map (·.post.she.sbState) = [.init, .success, .init] := by
  decide

end WolfHsmShe
