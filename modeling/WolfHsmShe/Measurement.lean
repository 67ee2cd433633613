import WolfHsmShe.BootRuns
import WolfHsmShe.Gate

/-!
# What a successful secure boot has checked

Between `SB_INIT` and `SB_FINISH` the CMAC context is keyed by `BOOT_MAC_KEY` and fed the image.
-/

namespace WolfHsmShe

variable (p : Platform) (env : Env)

/-- A measurement in progress: the CMAC context keyed by `BOOT_MAC_KEY` and fed `0^12`,
`blSize` and the image so far. -/
def Measuring (s : Server) : Prop :=
  s.she.sbState = .update ∨ s.she.sbState = .finish →
    ∃ macKey img, readResult env s.keys (sheKeyId p s.clientId p.bootMacKeyId) = .ok macKey ∧
      s.she.sheCmac = ⟨macKey.key, List.replicate 12 0 ++ store32 p.endian s.she.blSize ++ img⟩ ∧
      img.length % 4294967296 = s.she.blSizeReceived.toNat

variable {p env}

theorem Measuring.of_eq {s s' : Server} (h : Measuring p env s) (hc : s'.clientId = s.clientId)
    (hk : s'.keys = s.keys) (hs : s'.she.sbState = s.she.sbState)
    (hb : s'.she.blSize = s.she.blSize) (hr : s'.she.blSizeReceived = s.she.blSizeReceived)
    (hm : s'.she.sheCmac = s.she.sheCmac) : Measuring p env s' := by
  unfold Measuring
  rw [hc, hk, hs, hb, hr, hm]
  exact h

theorem measuring_of_sbState {s : Server} (h : s.she.sbState ≠ .update ∧ s.she.sbState ≠ .finish) :
    Measuring p env s := by
  rintro (e | e)
  exacts [absurd e h.1, absurd e h.2]

theorem length_append_mod (img : List Byte) (sz rec : BitVec 32) (chunk : List Byte)
    (hl : img.length % 4294967296 = rec.toNat) (hc : chunk.length = sz.toNat) :
    (img ++ chunk).length % 4294967296 = (rec + sz).toNat := by
  rw [List.length_append, BitVec.toNat_add, Nat.add_mod, hl, hc, Nat.mod_eq_of_lt sz.isLt]

variable (p env)

theorem dispatch_keeps_measurement {s : Server} {req : Request} (hsb : req.isSecureBoot = false)
    (hs : s.she.sbState = .update ∨ s.she.sbState = .finish) :
    (whServerHandleSheRequest p env s req).1.clientId = s.clientId ∧
      (whServerHandleSheRequest p env s req).1.keys = s.keys ∧
      (whServerHandleSheRequest p env s req).1.she.sbState = s.she.sbState ∧
      (whServerHandleSheRequest p env s req).1.she.blSize = s.she.blSize ∧
      (whServerHandleSheRequest p env s req).1.she.blSizeReceived = s.she.blSizeReceived ∧
      (whServerHandleSheRequest p env s req).1.she.sheCmac = s.she.sheCmac := by
  cases hg : gated s.she req
  · have hc := dispatch_confined p env s req
    obtain ⟨-, hbt, -, -, -, -, hcm⟩ := hc.she_eq
    obtain ⟨h1, h2, h3, -⟩ := hbt (Request.boot_not_mem_regions hsb)
    have hba := bootAction_of_passed hg fun hu => by rcases hs with e | e <;> simp [e] at hu
    have hset : req.regions ⊆ [.uid] ∧ req.slots p = [] := by
      cases req <;> simp_all [Request.bootAction, Request.isSetUid, Request.isSecureBoot,
        Request.regions, Request.slots]
    exact ⟨hc.client, funext fun id => hc.keys id (by simp [hset.2]), h1, h2, h3,
      hcm fun hm => by simpa using hset.1 hm⟩
  · simp [whServerHandleSheRequest, hg]

theorem dispatch_sbState_of_not_secureBoot (s : Server) {req : Request}
    (hsb : req.isSecureBoot = false) :
    (whServerHandleSheRequest p env s req).1.she.sbState = s.she.sbState :=
  ((dispatch_confined p env s req).she_eq.2.1 (Request.boot_not_mem_regions hsb)).1

section Handlers

variable (hupd : ∀ k fed data, env.cmacUpdate k fed data ≠ .error (.erc .noSecureBoot))
include hupd

theorem sheHandler_measuring {s : Server} {req : Request} (hsb : req.isSecureBoot = true)
    (hb : BootCount s.she) (h : Measuring p env s)
    (hk : ∀ e, (sheHandler p env req s).1 = .error e → e = .erc .noSecureBoot) :
    Measuring p env (sheHandler p env req s).2 := by
  rcases hr : sheHandler p env req s with ⟨res, s'⟩
  rw [hr] at hk
  dsimp only at hk ⊢
  cases req <;> simp only [Request.isSecureBoot, Bool.false_eq_true] at hsb <;>
    simp only [sheHandler] at hr
  case secureBootInit sz =>
    rcases hsmSheSecureBootInit_cases p env hr with
      ⟨-, -, rfl⟩ | ⟨-, -, -, rfl⟩ | ⟨hi, _, _, -, rfl⟩ | ⟨hi, macKey, hk', -, rfl⟩
    · exact h
    · exact measuring_of_sbState (by simp)
    · exact measuring_of_sbState (by simp [hi])
    · exact fun _ => ⟨macKey, [], hk', by simp, by simp [hb.init hi]⟩
  case secureBootUpdate sz data =>
    rcases hsmSheSecureBootUpdate_cases env hr with
      ⟨-, -, rfl⟩ | ⟨hi, e, rfl, ⟨-, rfl⟩ | ⟨-, hu⟩, rfl⟩ | ⟨hi, -, -, rfl⟩
    · exact h
    · simpa using hk _ rfl
    · exact absurd (hk e rfl ▸ hu) (hupd _ _ _)
    · obtain ⟨macKey, img, hk', hctx, hlen⟩ := h (.inl hi)
      exact fun _ => ⟨macKey, img ++ (readIn data sz.toNat).toList, hk', by simp [hctx],
        length_append_mod img sz _ _ hlen (Mathlib.Vector.toList_length _)⟩
  case secureBootFinish =>
    rcases hsmSheSecureBootFinish_cases p env hr with
      ⟨-, -, rfl⟩ | ⟨-, -, rfl⟩ | ⟨-, -, -, rfl⟩ | ⟨-, rfl, -⟩
    · exact h
    · exact h
    · exact measuring_of_sbState (by simp)
    · simpa using hk _ rfl

theorem measuring_step (s : Server) (req : Request) (hb : BootCount s.she)
    (h : Measuring p env s) : Measuring p env (whServerHandleSheRequest p env s req).1 := by
  cases hsb : req.isSecureBoot
  · intro hs
    obtain ⟨hc, hk, h1, h2, h3, hm⟩ := dispatch_keeps_measurement p env hsb
      (by rwa [dispatch_sbState_of_not_secureBoot p env s hsb] at hs)
    exact Measuring.of_eq h hc hk h1 h2 h3 hm hs
  rcases dispatch_secureBoot p env hsb with e | e | ⟨hk, e⟩
  · rw [e]
    exact h
  · refine measuring_of_sbState ?_
    simp [e, sbReset]
  · rw [e]
    exact sheHandler_measuring p env hupd hsb hb h hk

theorem measuring_reachable {s : Server} (h : Reachable p env s) :
    BootCount s.she ∧ Measuring p env s :=
  Reachable.inv p env (I := fun s => BootCount s.she ∧ Measuring p env s)
    (fun _ _ => ⟨bootCount_reachable p env (.start _ _),
      measuring_of_sbState (by simp [Server.start, She.init])⟩)
    (fun s req hs => ⟨bootCount_step p env s req hs.1, measuring_step p env hupd s req hs.1 hs.2⟩) h

/-- On a reachable server, `SUCCESS` comes from an `SB_INIT` that cannot read `BOOT_MAC_KEY`, or
an `SB_FINISH` that found `BOOT_MAC` the CMAC of `0^12`, the size and an image of that size. -/
theorem sb_success_certifies_image {s : Server} (h : Reachable p env s) (req : Request)
    (h0 : s.she.sbState ≠ .success)
    (h1 : (whServerHandleSheRequest p env s req).1.she.sbState = .success) :
    ((∃ sz, req = .secureBootInit sz) ∧
        ∃ e, readResult env s.keys (sheKeyId p s.clientId p.bootMacKeyId) = .error e) ∨
      (req = .secureBootFinish ∧ ∃ macKey mac img,
        readResult env s.keys (sheKeyId p s.clientId p.bootMacKeyId) = .ok macKey ∧
        readResult env s.keys (sheKeyId p s.clientId p.bootMac) = .ok mac ∧
        env.cmac macKey.key (List.replicate 12 0 ++ store32 p.endian s.she.blSize ++ img) =
          .ok mac.key ∧
        img.length % 4294967296 = s.she.blSize.toNat) := by
  rcases sheHandler_success p env h0 (handler_success_of_dispatch p env h0 h1) with
    ⟨hi, -, he⟩ | ⟨hf, hs, mac, hmac, hc⟩
  · exact .inl ⟨hi, he⟩
  obtain ⟨hb, hm⟩ := measuring_reachable p env hupd h
  obtain ⟨macKey, img, hk, hctx, hl⟩ := hm (.inr hs)
  rw [hctx] at hc
  exact .inr ⟨hf, macKey, mac, img, hk, hmac, hc, by rw [hl, hb.finish hs]⟩

end Handlers

def Server.sampleBootOk : Server :=
  Server.start 0 fun id =>
    if id = ⟨1, 0, 2⟩ ∨ id = ⟨1, 0, 3⟩ then some ⟨0, 0, .replicate 16 0x11⟩ else none

theorem sb_success_certifies_sample :
    let p := Platform.sample .little
    let s := run p Env.sample Server.sampleBootOk
      [.setUid (.replicate 15 7), .secureBootInit 0x10, .secureBootUpdate 0x10 []]
    (∀ k fed data, Env.sample.cmacUpdate k fed data ≠ .error (.erc .noSecureBoot)) ∧
      Reachable p Env.sample s ∧ s.she.sbState ≠ .success ∧
      (whServerHandleSheRequest p Env.sample s .secureBootFinish).1.she.sbState = .success ∧
      (((∃ sz, Request.secureBootFinish = .secureBootInit sz) ∧
          ∃ e, readResult Env.sample s.keys (sheKeyId p s.clientId p.bootMacKeyId) = .error e) ∨
        (Request.secureBootFinish = .secureBootFinish ∧ ∃ macKey mac img,
          readResult Env.sample s.keys (sheKeyId p s.clientId p.bootMacKeyId) = .ok macKey ∧
          readResult Env.sample s.keys (sheKeyId p s.clientId p.bootMac) = .ok mac ∧
          Env.sample.cmac macKey.key (List.replicate 12 0 ++ store32 p.endian s.she.blSize ++ img) =
            .ok mac.key ∧
          img.length % 4294967296 = s.she.blSize.toNat)) := by
  intro p s
  have hupd : ∀ k fed data, Env.sample.cmacUpdate k fed data ≠ .error (.erc .noSecureBoot) :=
    fun _ _ _ h => by cases h
  have hr : Reachable p Env.sample s := Reachable.run _ _ (.start _ _) _
  have h0 : s.she.sbState ≠ .success := by decide
  have h1 :
      (whServerHandleSheRequest p Env.sample s .secureBootFinish).1.she.sbState = .success := by
    decide
  exact ⟨hupd, hr, h0, h1, sb_success_certifies_image p Env.sample hupd hr _ h0 h1⟩

/-! ## The bytes measured -/

/-- The image after an accepted request: `SB_INIT` restarts it, `SB_UPDATE` appends its chunk. -/
def measureAccepted (img : List Byte) : Request → List Byte
  | .secureBootInit _ => []
  | .secureBootUpdate sz data => img ++ (readIn data sz.toNat).toList
  | _ => img

/-- The image a run has measured, from `img`: each request the dispatcher accepts updates it. -/
def measured (img : List Byte) : List Step → List Byte
  | [] => img
  | st :: sts => measured (match st.reply with
      | .ok _ => measureAccepted img st.req
      | .error _ => img) sts

/-- The measurement's CMAC context holds `BOOT_MAC_KEY` and `0^12`, `blSize`, then `img`. -/
def FedWith (img : List Byte) (s : Server) : Prop :=
  s.she.sbState = .update ∨ s.she.sbState = .finish →
    ∃ macKey, readResult env s.keys (sheKeyId p s.clientId p.bootMacKeyId) = .ok macKey ∧
      s.she.sheCmac = ⟨macKey.key, List.replicate 12 0 ++ store32 p.endian s.she.blSize ++ img⟩

variable {p env}

theorem FedWith.of_eq {img : List Byte} {s s' : Server} (h : FedWith p env img s)
    (hc : s'.clientId = s.clientId) (hk : s'.keys = s.keys) (hs : s'.she.sbState = s.she.sbState)
    (hb : s'.she.blSize = s.she.blSize) (hm : s'.she.sheCmac = s.she.sheCmac) :
    FedWith p env img s' := by
  unfold FedWith
  rw [hc, hk, hs, hb, hm]
  exact h

theorem fedWith_of_sbState {img : List Byte} {s : Server}
    (h : s.she.sbState ≠ .update ∧ s.she.sbState ≠ .finish) : FedWith p env img s := by
  rintro (e | e)
  exacts [absurd e h.1, absurd e h.2]

variable (p env)

theorem sheHandler_fedWith {img : List Byte} {s s' : Server} {req : Request}
    {res : Except Err Resp} (hsb : req.isSecureBoot = true) (h : FedWith p env img s)
    (hrun : sheHandler p env req s = (res, s')) :
    FedWith p env (match res with | .ok _ => measureAccepted img req | .error _ => img) s' := by
  cases req <;> simp only [Request.isSecureBoot, Bool.false_eq_true] at hsb <;>
    simp only [sheHandler] at hrun
  case secureBootInit sz =>
    rcases hsmSheSecureBootInit_cases p env hrun with
      ⟨-, rfl, rfl⟩ | ⟨-, -, rfl, rfl⟩ | ⟨hi, _, _, rfl, rfl⟩ | ⟨hi, macKey, hr, rfl, rfl⟩
    · exact h
    · exact fedWith_of_sbState (by simp)
    · exact fedWith_of_sbState (by simp [hi])
    · exact fun _ => ⟨macKey, hr, by simp [measureAccepted]⟩
  case secureBootUpdate sz data =>
    rcases hsmSheSecureBootUpdate_cases env hrun with
      ⟨-, rfl, rfl⟩ | ⟨-, _, rfl, -, rfl⟩ | ⟨hi, -, rfl, rfl⟩
    · exact h
    · exact h.of_eq rfl rfl rfl rfl rfl
    · obtain ⟨macKey, hr, hctx⟩ := h (.inl hi)
      exact fun _ => ⟨macKey, hr, by simp [hctx, measureAccepted]⟩
  case secureBootFinish =>
    rcases hsmSheSecureBootFinish_cases p env hrun with
      ⟨-, rfl, rfl⟩ | ⟨-, ⟨_, rfl⟩, rfl⟩ | ⟨-, -, rfl, rfl⟩ | ⟨-, rfl, rfl⟩
    · exact h
    · exact h
    · exact fedWith_of_sbState (by simp)
    · exact fedWith_of_sbState (by simp)

theorem fedWith_step (s : Server) (req : Request) {img : List Byte} (h : FedWith p env img s) :
    FedWith p env (match (whServerHandleSheRequest p env s req).2 with
        | .ok _ => measureAccepted img req
        | .error _ => img) (whServerHandleSheRequest p env s req).1 := by
  cases hsb : req.isSecureBoot
  · have hacc : measureAccepted img req = img := by
      cases req <;> simp_all [measureAccepted, Request.isSecureBoot]
    have hpost : FedWith p env img (whServerHandleSheRequest p env s req).1 := fun hs => by
      obtain ⟨hc, hk, h1, h2, -, hm⟩ := dispatch_keeps_measurement p env hsb
        (by rwa [dispatch_sbState_of_not_secureBoot p env s hsb] at hs)
      exact (h.of_eq hc hk h1 h2 hm) hs
    split <;> (try rw [hacc]) <;> exact hpost
  unfold whServerHandleSheRequest
  cases hg : gated s.she req
  · simp only [Bool.false_eq_true, if_false]
    rcases hr : sheHandler p env req s with ⟨e | r, s₁⟩ <;>
      have hh := sheHandler_fedWith p env hsb h hr <;> dsimp only at hh ⊢
    · split_ifs
      · exact fedWith_of_sbState (by simp [sbReset])
      · exact hh
    · exact hh
  · simpa only [if_true] using h

theorem fedWith_run (s : Server) (reqs : List Request) {img : List Byte}
    (h : FedWith p env img s) :
    FedWith p env (measured img (trace p env s reqs)) (run p env s reqs) := by
  induction reqs generalizing s img with
  | nil => exact h
  | cons req reqs ih => exact ih _ (fedWith_step p env s req h)

theorem run_clientId (s : Server) (reqs : List Request) :
    (run p env s reqs).clientId = s.clientId := by
  induction reqs generalizing s with
  | nil => rfl
  | cons req reqs ih => exact (ih _).trans (dispatch_confined p env s req).client

theorem hsmSheSecureBootFinish_ok {s s' : Server} {r : Resp}
    (h : hsmSheSecureBootFinish p env s = (.ok r, s')) :
    s.she.sbState = .finish ∧
      ∃ mac, readResult env s.keys (sheKeyId p s.clientId p.bootMac) = .ok mac ∧
        env.cmac s.she.sheCmac.key s.she.sheCmac.fed = .ok mac.key := by
  rcases hsmSheSecureBootFinish_cases p env h with
    ⟨-, h', -⟩ | ⟨-, ⟨_, h'⟩, -⟩ | ⟨hi, hmac, -, -⟩ | ⟨-, h', -⟩
  · cases h'
  · cases h'
  · exact ⟨hi, hmac⟩
  · cases h'

/-- A successful `SB_FINISH` found `BOOT_MAC` the CMAC of `0^12`, the size of the last `SB_INIT`
and the chunks of the `SB_UPDATE`s accepted since, in order. -/
theorem sb_finish_certifies_chunks (s : Server) (reqs : List Request)
    (hs : s.she.sbState ≠ .update ∧ s.she.sbState ≠ .finish) {r : Resp}
    (hfin : (whServerHandleSheRequest p env (run p env s reqs) .secureBootFinish).2 = .ok r) :
    ∃ macKey mac,
      readResult env (run p env s reqs).keys (sheKeyId p s.clientId p.bootMacKeyId) = .ok macKey ∧
      readResult env (run p env s reqs).keys (sheKeyId p s.clientId p.bootMac) = .ok mac ∧
      env.cmac macKey.key (List.replicate 12 0 ++ store32 p.endian (run p env s reqs).she.blSize ++
        measured [] (trace p env s reqs)) = .ok mac.key := by
  obtain ⟨hst, mac, hmac, hc⟩ :=
    hsmSheSecureBootFinish_ok p env (handler_of_dispatch_ok p env hfin).2
  obtain ⟨macKey, hk, hctx⟩ := fedWith_run p env s reqs (fedWith_of_sbState hs) (.inr hst)
  rw [run_clientId] at hk hmac
  rw [hctx] at hc
  exact ⟨macKey, mac, hk, hmac, hc⟩

theorem sb_finish_certifies_sample :
    let p := Platform.sample .little
    let reqs := [Request.setUid (.replicate 15 7), .secureBootInit 0x10,
      .secureBootUpdate 0x10 (List.replicate 16 0xab)]
    Server.sampleBootOk.she.sbState ≠ .update ∧ Server.sampleBootOk.she.sbState ≠ .finish ∧
      (whServerHandleSheRequest p Env.sample (run p Env.sample Server.sampleBootOk reqs)
        .secureBootFinish).2 = .ok .secureBootFinish ∧
      ∃ macKey mac,
        readResult Env.sample (run p Env.sample Server.sampleBootOk reqs).keys
          (sheKeyId p Server.sampleBootOk.clientId p.bootMacKeyId) = .ok macKey ∧
        readResult Env.sample (run p Env.sample Server.sampleBootOk reqs).keys
          (sheKeyId p Server.sampleBootOk.clientId p.bootMac) = .ok mac ∧
        Env.sample.cmac macKey.key (List.replicate 12 0 ++
          store32 p.endian (run p Env.sample Server.sampleBootOk reqs).she.blSize ++
          measured [] (trace p Env.sample Server.sampleBootOk reqs)) = .ok mac.key := by
  intro p reqs
  have hs : Server.sampleBootOk.she.sbState ≠ .update ∧
      Server.sampleBootOk.she.sbState ≠ .finish := by decide
  have hfin : (whServerHandleSheRequest p Env.sample (run p Env.sample Server.sampleBootOk reqs)
      .secureBootFinish).2 = .ok .secureBootFinish := by decide
  exact ⟨hs.1, hs.2, hfin, sb_finish_certifies_chunks p Env.sample _ _ hs hfin⟩

end WolfHsmShe
