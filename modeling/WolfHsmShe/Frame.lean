import WolfHsmShe.Dispatch

/-!
# What a request may change

`Confined` is reflexive and transitive, so it holds of a handler once it holds of its steps.
-/

namespace WolfHsmShe

/-! ## Regions of the SHE state -/

/-- The fields of `She`, grouped by the requests that write them. -/
inductive Region
  | uid
  | boot
  | rndInited
  | prngState
  | prngKey
  | ramKeyPlain
  | cmac
  deriving DecidableEq

/-- The SHE state with the regions `rs` cleared: what a step that writes only `rs` keeps. -/
@[simps]
def She.mask (rs : List Region) (she : She) : She where
  uid := if .uid ∈ rs then She.init.uid else she.uid
  uidSet := if .uid ∈ rs then false else she.uidSet
  sbState := if .boot ∈ rs then .init else she.sbState
  blSize := if .boot ∈ rs then 0 else she.blSize
  blSizeReceived := if .boot ∈ rs then 0 else she.blSizeReceived
  cmacKeyFound := if .boot ∈ rs then false else she.cmacKeyFound
  rndInited := if .rndInited ∈ rs then false else she.rndInited
  prngState := if .prngState ∈ rs then zeroBlock else she.prngState
  prngKey := if .prngKey ∈ rs then zeroBlock else she.prngKey
  ramKeyPlain := if .ramKeyPlain ∈ rs then false else she.ramKeyPlain
  sheCmac := if .cmac ∈ rs then She.init.sheCmac else she.sheCmac

theorem She.mask_mono {rs rs' : List Region} (hsub : rs ⊆ rs') {she she' : She}
    (h : she'.mask rs = she.mask rs) : she'.mask rs' = she.mask rs' := by
  have k : ∀ {β : Type} (r : Region) (f : She → β) (d : β),
      (if r ∈ rs then d else f she') = (if r ∈ rs then d else f she) →
      (if r ∈ rs' then d else f she') = (if r ∈ rs' then d else f she) := by
    intro β r f d e
    by_cases hr : r ∈ rs
    · simp [hsub hr]
    · simpa [hr] using congrArg (fun x => if r ∈ rs' then d else x) (by simpa [hr] using e)
  simp only [She.mask.eq_1, She.mk.injEq] at h ⊢
  obtain ⟨h1, h2, h3, h4, h5, h6, h7, h8, h9, h10, h11⟩ := h
  exact ⟨k _ _ _ h1, k _ _ _ h2, k _ _ _ h3, k _ _ _ h4, k _ _ _ h5, k _ _ _ h6, k _ _ _ h7,
    k _ _ _ h8, k _ _ _ h9, k _ _ _ h10, k _ _ _ h11⟩

/-! ## Confined steps -/

section Confined

variable (p : Platform)

/-- The step keeps the client and writes at most the regions `rs` and the client's slots `ns`. -/
structure Confined (rs : List Region) (ns : List Nat) (s s' : Server) : Prop where
  client : s'.clientId = s.clientId
  she : s'.she.mask rs = s.she.mask rs
  keys : ∀ id, (∀ n ∈ ns, id ≠ sheKeyId p s.clientId n) → s'.keys id = s.keys id

variable {p} {rs : List Region} {ns : List Nat}

theorem Confined.refl (s : Server) : Confined p rs ns s s := ⟨rfl, rfl, fun _ _ => rfl⟩

theorem Confined.trans {s₁ s₂ s₃ : Server} (h₁ : Confined p rs ns s₁ s₂)
    (h₂ : Confined p rs ns s₂ s₃) : Confined p rs ns s₁ s₃ where
  client := h₂.client.trans h₁.client
  she := h₂.she.trans h₁.she
  keys id hid := (h₂.keys id (by rwa [h₁.client])).trans (h₁.keys id hid)

theorem Confined.mono {rs' : List Region} {ns' : List Nat} (hr : rs ⊆ rs') (hn : ns ⊆ ns')
    {s s' : Server} (h : Confined p rs ns s s') : Confined p rs' ns' s s' where
  client := h.client
  she := She.mask_mono hr h.she
  keys id hid := h.keys id fun n hn' => hid n (hn hn')

theorem Confined.she_eq {s s' : Server} (h : Confined p rs ns s s') :
    (Region.uid ∉ rs → s'.she.uid = s.she.uid ∧ s'.she.uidSet = s.she.uidSet) ∧
    (Region.boot ∉ rs → s'.she.sbState = s.she.sbState ∧ s'.she.blSize = s.she.blSize ∧
      s'.she.blSizeReceived = s.she.blSizeReceived ∧ s'.she.cmacKeyFound = s.she.cmacKeyFound) ∧
    (Region.rndInited ∉ rs → s'.she.rndInited = s.she.rndInited) ∧
    (Region.prngState ∉ rs → s'.she.prngState = s.she.prngState) ∧
    (Region.prngKey ∉ rs → s'.she.prngKey = s.she.prngKey) ∧
    (Region.ramKeyPlain ∉ rs → s'.she.ramKeyPlain = s.she.ramKeyPlain) ∧
    (Region.cmac ∉ rs → s'.she.sheCmac = s.she.sheCmac) := by
  have e := h.she
  simp only [She.mask.eq_1, She.mk.injEq] at e
  refine ⟨?_, ?_, ?_, ?_, ?_, ?_, ?_⟩ <;> intro hr <;> simp_all

theorem Confined.ramKeyPlain_eq {s s' : Server} (h : Confined p rs ns s s')
    (hr : Region.ramKeyPlain ∉ rs) : s'.she.ramKeyPlain = s.she.ramKeyPlain :=
  h.she_eq.2.2.2.2.2.1 hr

theorem Confined.keys_changed {s s' : Server} (h : Confined p rs ns s s') {id : KeyId}
    (hne : s'.keys id ≠ s.keys id) : ∃ n ∈ ns, id = sheKeyId p s.clientId n := by
  by_contra hn
  push_neg at hn
  exact hne (h.keys id hn)

/-- Every run of `m` is confined to `rs` and `ns`. -/
def Confines {α : Type} (p : Platform) (rs : List Region) (ns : List Nat) (m : SheM α) : Prop :=
  ∀ s, Confined p rs ns s (m s).2

variable {α β : Type}

theorem confines_pure (a : α) : Confines p rs ns (pure a : SheM α) := Confined.refl
theorem confines_fail (e : Err) : Confines p rs ns (fail e : SheM α) := Confined.refl
theorem confines_call (x : Except Err α) : Confines p rs ns (call x) := Confined.refl
theorem confines_getShe : Confines p rs ns getShe := Confined.refl
theorem confines_readKey (env : Env) (slot : Nat) : Confines p rs ns (readKey p env slot) :=
  Confined.refl

theorem confines_bind {m : SheM α} {k : α → SheM β} (hm : Confines p rs ns m)
    (hk : ∀ a, Confines p rs ns (k a)) : Confines p rs ns (m >>= k) := by
  intro s
  rw [SheM.bind_run]
  rcases h : m s with ⟨_ | a, s'⟩
  · simpa [h] using hm s
  · simpa only [← h] using (hm s).trans (by simpa only [h] using hk a s')

theorem confines_ite {c : Prop} [Decidable c] {m₁ m₂ : SheM α} (h₁ : Confines p rs ns m₁)
    (h₂ : Confines p rs ns m₂) : Confines p rs ns (if c then m₁ else m₂) := by
  split <;> assumption

theorem confines_doIf {c : Prop} [Decidable c] {m : SheM Unit} (h : Confines p rs ns m) :
    Confines p rs ns (doIf c m) :=
  confines_ite h (confines_pure _)

theorem confines_check {c : Prop} [Decidable c] (e : Err) : Confines p rs ns (check c e) :=
  confines_doIf (confines_fail e)

theorem confines_orFail {m : SheM (Except Err α)} (err : Err) (h : Confines p rs ns m) :
    Confines p rs ns (orFail err m) :=
  confines_bind h fun r => by cases r <;> first | exact confines_fail _ | exact confines_pure _

theorem confines_modifyShe {g : She → She} (h : ∀ she, (g she).mask rs = she.mask rs) :
    Confines p rs ns (modifyShe g) :=
  fun s => ⟨rfl, h s.she, fun _ _ => rfl⟩

theorem confines_writeKey (fault : KeyId → Option Err) {n : Nat} (o : KeyObj) (hn : n ∈ ns) :
    Confines p rs ns (writeKey p fault n o) := by
  intro s
  simp only [writeKey]
  split
  · exact Confined.refl s
  · exact ⟨rfl, rfl, fun id hid => Function.update_noteq (hid n hn) _ _⟩

theorem Confines.mono {rs' : List Region} {ns' : List Nat} {m : SheM α} (h : Confines p rs ns m)
    (hr : rs ⊆ rs') (hn : ns ⊆ ns') : Confines p rs' ns' m :=
  fun s => (h s).mono hr hn

end Confined

/-! ## The footprint of each request -/

namespace Request

/-- The regions of the SHE state a request may write. -/
def regions : Request → List Region
  | .setUid _ => [.uid]
  | .secureBootInit _ | .secureBootUpdate _ _ => [.boot, .cmac]
  | .secureBootFinish => [.boot]
  | .loadKey .. => [.cmac, .ramKeyPlain]
  | .loadPlainKey _ => [.ramKeyPlain]
  | .exportRamKey | .genMac .. | .verifyMac .. => [.cmac]
  | .initRnd => [.rndInited, .prngState, .prngKey]
  | .rnd | .extendSeed _ => [.prngState]
  | _ => []

/-- The SHE slots of its client a request may write. -/
def slots (p : Platform) : Request → List Nat
  | .loadKey m1 _ _ => [hsmShePopId m1]
  | .loadPlainKey _ => [p.ramKeyId]
  | .initRnd | .extendSeed _ => [p.prngSeedId]
  | _ => []

end Request

variable (p : Platform) (env : Env)

set_option maxRecDepth 600 in
theorem sheHandler_confined (req : Request) :
    Confines p req.regions (req.slots p) (sheHandler p env req) := by
  cases req <;>
  simp only [sheHandler, hsmSheSetUid, hsmSheSecureBootInit, hsmSheSecureBootUpdate,
    hsmSheSecureBootFinish, hsmSheGetStatus, hsmSheLoadKey, loadKeyDecrypt, loadKeyCheck,
    loadKeyWrite, loadKeyConfirm, hsmSheLoadPlainKey, hsmSheExportRamKey, hsmSheInitRnd,
    hsmSheRnd, hsmSheExtendSeed, hsmSheEncEcb, hsmSheEncCbc, hsmSheDecEcb, hsmSheDecCbc,
    hsmSheAesMode, hsmSheGenerateMac, hsmSheVerifyMac, cmacStart, cmacFeed, cmacFinal,
    cmacGenerate, aesMp16Into, readKeyOr, addObject, cacheKey] <;>
  repeat
    first
    | with_reducible refine confines_bind ?_ fun _ => ?_
    | with_reducible refine confines_modifyShe fun _ => ?_
    | with_reducible refine confines_writeKey _ _ ?_
    | with_reducible exact confines_getShe
    | with_reducible exact confines_readKey _ _
    | with_reducible exact confines_call _
    | with_reducible exact confines_pure _
    | with_reducible exact confines_fail _
    | with_reducible exact confines_check _
    | with_reducible refine confines_doIf ?_
    | with_reducible refine confines_orFail _ ?_
    | with_reducible refine confines_ite ?_ ?_
    | split
    | rfl
    | exact List.mem_singleton_self _

theorem Request.boot_mem_regions {req : Request} (h : req.isSecureBoot = true) :
    Region.boot ∈ req.regions := by
  cases req <;> simp_all [Request.isSecureBoot, Request.regions]

theorem She.mask_sbReset {rs : List Region} (h : Region.boot ∈ rs) (she : She) :
    (sbReset she).mask rs = she.mask rs := by
  simp [She.mask, sbReset, h]

theorem dispatch_confined (s : Server) (req : Request) :
    Confined p req.regions (req.slots p) s (whServerHandleSheRequest p env s req).1 := by
  unfold whServerHandleSheRequest
  split
  · exact Confined.refl s
  · have h := sheHandler_confined p env req s
    split
    · simpa [*] using h
    · rename_i e s' hrun
      rw [hrun] at h
      refine ⟨h.client, ?_, h.keys⟩
      dsimp only
      split
      · rw [She.mask_sbReset (Request.boot_mem_regions (by simp_all)), h.she]
      · exact h.she

end WolfHsmShe
