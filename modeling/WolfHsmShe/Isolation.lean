import WolfHsmShe.Frame

/-!
# Client isolation

Every access goes through `MAKE_WOLFHSM_KEYID(WOLFHSM_KEYTYPE_SHE, client_id, slot)`, and distinct
triples name distinct objects (`KeyId`): a request of client `c` sees only client `c`'s SHE objects.
-/

namespace WolfHsmShe

section Twin

variable (p : Platform)

/-- The objects of key type SHE and client `c`. -/
def Owned (c : Nat) (id : KeyId) : Prop := id.type = p.keyTypeShe ∧ id.user = c

theorem owned_sheKeyId (c n : Nat) : Owned p c (sheKeyId p c n) := ⟨rfl, rfl⟩

/-- Two servers of client `c` alike in SHE state and in the SHE objects of client `c`. -/
structure Twin (c : Nat) (s₁ s₂ : Server) : Prop where
  she : s₁.she = s₂.she
  client₁ : s₁.clientId = c
  client₂ : s₂.clientId = c
  keys : ∀ id, Owned p c id → s₁.keys id = s₂.keys id

/-- A handler step that cannot tell twins apart: it answers both alike and leaves them twins. -/
def Blind {α : Type} (c : Nat) (m : SheM α) : Prop :=
  ∀ s₁ s₂, Twin p c s₁ s₂ → (m s₁).1 = (m s₂).1 ∧ Twin p c (m s₁).2 (m s₂).2

variable {p} {c : Nat} {α β : Type}

theorem blind_pure (a : α) : Blind p c (pure a : SheM α) := fun _ _ ht => ⟨rfl, ht⟩
theorem blind_fail (e : Err) : Blind p c (fail e : SheM α) := fun _ _ ht => ⟨rfl, ht⟩
theorem blind_call (x : Except Err α) : Blind p c (call x) := fun _ _ ht => ⟨rfl, ht⟩
theorem blind_getShe : Blind p c getShe := fun _ _ ht => ⟨by simp [ht.she], ht⟩

theorem blind_modifyShe (g : She → She) : Blind p c (modifyShe g) :=
  fun _ _ ht => ⟨rfl, ⟨by simp [ht.she], ht.client₁, ht.client₂, ht.keys⟩⟩

theorem blind_readKey (env : Env) (slot : Nat) : Blind p c (readKey p env slot) := by
  intro s₁ s₂ ht
  refine ⟨?_, ht⟩
  simp only [readKey_run, ht.client₁, ht.client₂, readResult,
    ht.keys _ (owned_sheKeyId p c slot)]

theorem blind_writeKey (fault : KeyId → Option Err) (slot : Nat) (o : KeyObj) :
    Blind p c (writeKey p fault slot o) := by
  intro s₁ s₂ ht
  simp only [writeKey, ht.client₁, ht.client₂]
  split
  · exact ⟨rfl, ht⟩
  · refine ⟨rfl, ht.she, rfl, rfl, fun id hid => ?_⟩
    by_cases e : id = sheKeyId p c slot
    · subst e
      simp
    · simp [Function.update_noteq e, ht.keys id hid]

theorem blind_bind {m : SheM α} {k : α → SheM β} (hm : Blind p c m) (hk : ∀ a, Blind p c (k a)) :
    Blind p c (m >>= k) := by
  intro s₁ s₂ ht
  have ⟨hr, ht'⟩ := hm s₁ s₂ ht
  simp only [SheM.bind_run]
  rcases h₁ : m s₁ with ⟨_ | a, s₁'⟩ <;> rcases h₂ : m s₂ with ⟨_ | a', s₂'⟩ <;>
    simp only [h₁, h₂] at hr ht' <;> cases hr
  · exact ⟨rfl, ht'⟩
  · exact hk a s₁' s₂' ht'

theorem blind_ite {q : Prop} [Decidable q] {m₁ m₂ : SheM α} (h₁ : Blind p c m₁)
    (h₂ : Blind p c m₂) : Blind p c (if q then m₁ else m₂) := by
  split <;> assumption

theorem blind_doIf {q : Prop} [Decidable q] {m : SheM Unit} (h : Blind p c m) :
    Blind p c (doIf q m) :=
  blind_ite h (blind_pure _)

theorem blind_check {q : Prop} [Decidable q] (e : Err) : Blind p c (check q e) :=
  blind_doIf (blind_fail e)

theorem blind_orFail {m : SheM (Except Err α)} (err : Err) (h : Blind p c m) :
    Blind p c (orFail err m) :=
  blind_bind h fun r => by cases r <;> first | exact blind_fail _ | exact blind_pure _

end Twin

variable (p : Platform) (env : Env)

set_option maxRecDepth 600 in
theorem sheHandler_blind (c : Nat) (req : Request) : Blind p c (sheHandler p env req) := by
  cases req <;>
  simp only [sheHandler, hsmSheSetUid, hsmSheSecureBootInit, hsmSheSecureBootUpdate,
    hsmSheSecureBootFinish, hsmSheGetStatus, hsmSheLoadKey, loadKeyDecrypt, loadKeyCheck,
    loadKeyWrite, loadKeyConfirm, hsmSheLoadPlainKey, hsmSheExportRamKey, hsmSheInitRnd,
    hsmSheRnd, hsmSheExtendSeed, hsmSheEncEcb, hsmSheEncCbc, hsmSheDecEcb, hsmSheDecCbc,
    hsmSheAesMode, hsmSheGenerateMac, hsmSheVerifyMac, cmacStart, cmacFeed, cmacFinal,
    cmacGenerate, aesMp16Into, readKeyOr, addObject, cacheKey] <;>
  repeat
    first
    | with_reducible refine blind_bind ?_ fun _ => ?_
    | with_reducible exact blind_modifyShe _
    | with_reducible exact blind_writeKey _ _ _
    | with_reducible exact blind_getShe
    | with_reducible exact blind_readKey _ _
    | with_reducible exact blind_call _
    | with_reducible exact blind_pure _
    | with_reducible exact blind_fail _
    | with_reducible exact blind_check _
    | with_reducible refine blind_doIf ?_
    | with_reducible refine blind_orFail _ ?_
    | with_reducible refine blind_ite ?_ ?_
    | split

theorem dispatch_twin {c : Nat} {s₁ s₂ : Server} (ht : Twin p c s₁ s₂) (req : Request) :
    (whServerHandleSheRequest p env s₁ req).2 = (whServerHandleSheRequest p env s₂ req).2 ∧
      Twin p c (whServerHandleSheRequest p env s₁ req).1 (whServerHandleSheRequest p env s₂ req).1 := by
  have ⟨hr, ht'⟩ := sheHandler_blind p env c req s₁ s₂ ht
  unfold whServerHandleSheRequest
  rw [ht.she]
  split
  · exact ⟨rfl, ht⟩
  · rcases h₁ : sheHandler p env req s₁ with ⟨_ | a, s₁'⟩ <;>
      rcases h₂ : sheHandler p env req s₂ with ⟨_ | a', s₂'⟩ <;>
      simp only [h₁, h₂] at hr ht' <;> cases hr
    · exact ⟨rfl, by simp [ht'.she], ht'.client₁, ht'.client₂, ht'.keys⟩
    · exact ⟨rfl, ht'⟩

/-- A request of client `c` on stores that agree on client `c`'s SHE objects gets the same reply
and SHE state, and the new stores agree there again and keep every other object. -/
theorem client_isolation (s : Server) (keys : KeyStore) (req : Request)
    (hagree : ∀ id, Owned p s.clientId id → s.keys id = keys id) :
    (whServerHandleSheRequest p env s req).2 =
        (whServerHandleSheRequest p env { s with keys := keys } req).2 ∧
      (whServerHandleSheRequest p env s req).1.she =
        (whServerHandleSheRequest p env { s with keys := keys } req).1.she ∧
      (whServerHandleSheRequest p env s req).1.clientId =
        (whServerHandleSheRequest p env { s with keys := keys } req).1.clientId ∧
      (∀ id, Owned p s.clientId id → (whServerHandleSheRequest p env s req).1.keys id =
        (whServerHandleSheRequest p env { s with keys := keys } req).1.keys id) ∧
      (∀ id, ¬ Owned p s.clientId id →
        (whServerHandleSheRequest p env s req).1.keys id = s.keys id ∧
        (whServerHandleSheRequest p env { s with keys := keys } req).1.keys id = keys id) := by
  have ht₀ : Twin p s.clientId s { s with keys := keys } := ⟨rfl, rfl, rfl, hagree⟩
  have ⟨hr, ht⟩ := dispatch_twin p env ht₀ req
  have outside (s' : Server) (hc : s'.clientId = s.clientId) (id : KeyId)
      (hid : ¬ Owned p s.clientId id) : (whServerHandleSheRequest p env s' req).1.keys id = s'.keys id :=
    (dispatch_confined p env s' req).keys id fun n _ e => hid (e ▸ hc ▸ owned_sheKeyId p _ n)
  exact ⟨hr, ht.she, ht.client₁.trans ht.client₂.symm, ht.keys,
    fun id hid => ⟨outside s rfl id hid, outside { s with keys := keys } rfl id hid⟩⟩

def sampleOtherClient (keys : KeyStore) : KeyStore := fun id =>
  if id.user = 1 then some ⟨0, 0, .replicate 16 0x99⟩ else keys id

theorem client_isolation_sample :
    let p := Platform.sample .big
    let s := Server.sampleBooted p Env.sample
    let req := Request.genMac 1 16 (List.replicate 16 0x5a)
    (∀ id, Owned p s.clientId id → s.keys id = sampleOtherClient s.keys id) ∧
      (whServerHandleSheRequest p Env.sample s req).2 =
        (whServerHandleSheRequest p Env.sample { s with keys := sampleOtherClient s.keys } req).2 ∧
      (whServerHandleSheRequest p Env.sample s req).1.she =
        (whServerHandleSheRequest p Env.sample { s with keys := sampleOtherClient s.keys } req).1.she ∧
      (whServerHandleSheRequest p Env.sample s req).1.clientId =
        (whServerHandleSheRequest p Env.sample
          { s with keys := sampleOtherClient s.keys } req).1.clientId ∧
      (∀ id, Owned p s.clientId id → (whServerHandleSheRequest p Env.sample s req).1.keys id =
        (whServerHandleSheRequest p Env.sample
          { s with keys := sampleOtherClient s.keys } req).1.keys id) ∧
      (∀ id, ¬ Owned p s.clientId id →
        (whServerHandleSheRequest p Env.sample s req).1.keys id = s.keys id ∧
        (whServerHandleSheRequest p Env.sample
          { s with keys := sampleOtherClient s.keys } req).1.keys id = sampleOtherClient s.keys id) :=
  have h : ∀ id, Owned (Platform.sample .big) (Server.sampleBooted (Platform.sample .big)
      Env.sample).clientId id → (Server.sampleBooted (Platform.sample .big) Env.sample).keys id =
        sampleOtherClient (Server.sampleBooted (Platform.sample .big) Env.sample).keys id :=
    fun id hid => by
      have hc : (Server.sampleBooted (Platform.sample .big) Env.sample).clientId = 0 := by decide
      simp [sampleOtherClient, hid.2.trans hc]
  ⟨h, client_isolation _ _ _ _ _ h⟩

/-- Along any run, twin servers of client `c` give the same replies and end as twins. -/
theorem client_isolation_on_runs {c : Nat} {s₁ s₂ : Server} (ht : Twin p c s₁ s₂)
    (reqs : List Request) :
    (trace p env s₁ reqs).map Step.reply = (trace p env s₂ reqs).map Step.reply ∧
      Twin p c (run p env s₁ reqs) (run p env s₂ reqs) := by
  induction reqs generalizing s₁ s₂ with
  | nil => exact ⟨rfl, ht⟩
  | cons req reqs ih =>
    have ⟨hr, ht'⟩ := dispatch_twin p env ht req
    have ⟨ihr, iht⟩ := ih ht'
    exact ⟨by simp only [trace, List.map_cons, hr, ihr], iht⟩

theorem client_isolation_on_runs_sample :
    let p := Platform.sample .big
    let s := Server.sampleBooted p Env.sample
    let s' := { s with keys := sampleOtherClient s.keys }
    let reqs := [Request.loadPlainKey (.replicate 16 0x42), .exportRamKey,
      .genMac 1 16 (List.replicate 16 0x5a)]
    Twin p 0 s s' ∧
      (trace p Env.sample s reqs).map Step.reply = (trace p Env.sample s' reqs).map Step.reply ∧
      Twin p 0 (run p Env.sample s reqs) (run p Env.sample s' reqs) :=
  have hc : (Server.sampleBooted (Platform.sample .big) Env.sample).clientId = 0 := by decide
  have ht : Twin (Platform.sample .big) 0 (Server.sampleBooted (Platform.sample .big) Env.sample)
      { Server.sampleBooted (Platform.sample .big) Env.sample with
        keys := sampleOtherClient (Server.sampleBooted (Platform.sample .big) Env.sample).keys } :=
    ⟨rfl, hc, hc, fun id hid => by simp [sampleOtherClient, hid.2]⟩
  ⟨ht, client_isolation_on_runs _ _ ht _⟩

end WolfHsmShe
