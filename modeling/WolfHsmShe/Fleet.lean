import WolfHsmShe.Isolation

/-!
# Clients served side by side

One server context per client over one key store, the clients' requests interleaved in any order.
-/

namespace WolfHsmShe

/-- The server contexts of all clients: a SHE context each, and the one store they share. -/
@[ext]
structure Fleet where
  she : Nat → She
  keys : KeyStore

/-- The items of client `c` in a list tagged with clients, in order. -/
def own {α : Type} (c : Nat) (xs : List (Nat × α)) : List α :=
  xs.filterMap fun x => if x.1 = c then some x.2 else none

@[simp] theorem own_nil {α : Type} (c : Nat) : own c ([] : List (Nat × α)) = [] := rfl

@[simp] theorem own_cons_self {α : Type} (c : Nat) (a : α) (xs : List (Nat × α)) :
    own c ((c, a) :: xs) = a :: own c xs := by
  simp [own]

@[simp] theorem own_cons_other {α : Type} {c d : Nat} (h : d ≠ c) (a : α) (xs : List (Nat × α)) :
    own c ((d, a) :: xs) = own c xs := by
  simp [own, h]

namespace Fleet

def server (f : Fleet) (c : Nat) : Server := ⟨f.she c, c, f.keys⟩

variable (p : Platform) (env : Env)

/-- Client `c`'s context serves its request and writes back its SHE context and the store. -/
def serve (f : Fleet) (c : Nat) (req : Request) : Fleet × Reply :=
  let r := whServerHandleSheRequest p env (f.server c) req
  (⟨Function.update f.she c r.1.she, r.1.keys⟩, r.2)

/-- The replies to an interleaving of the clients' requests, each tagged with its client. -/
def replies : Fleet → List (Nat × Request) → List (Nat × Reply)
  | _, [] => []
  | f, (c, req) :: reqs => (c, (f.serve p env c req).2) :: replies (f.serve p env c req).1 reqs

def runs : Fleet → List (Nat × Request) → Fleet
  | f, [] => f
  | f, (c, req) :: reqs => runs (f.serve p env c req).1 reqs

end Fleet

section Twin

variable {p : Platform} {c : Nat}

theorem Twin.refl (s : Server) (hc : s.clientId = c) : Twin p c s s :=
  ⟨rfl, hc, hc, fun _ _ => rfl⟩

theorem Twin.trans {s₁ s₂ s₃ : Server} (h₁ : Twin p c s₁ s₂) (h₂ : Twin p c s₂ s₃) :
    Twin p c s₁ s₃ :=
  ⟨h₁.she.trans h₂.she, h₁.client₁, h₂.client₂, fun id hid => (h₁.keys id hid).trans (h₂.keys id hid)⟩

end Twin

variable (p : Platform) (env : Env)

/-! ## One request -/

theorem serve_server_self (f : Fleet) (c : Nat) (req : Request) :
    (f.serve p env c req).1.server c = (whServerHandleSheRequest p env (f.server c) req).1 := by
  have hc := (dispatch_confined p env (f.server c) req).client
  simp only [Fleet.serve, Fleet.server, Function.update_same] at hc ⊢
  generalize whServerHandleSheRequest p env ⟨f.she c, c, f.keys⟩ req = r at hc ⊢
  obtain ⟨⟨she, client, keys⟩, _⟩ := r
  simp_all

theorem serve_snd (f : Fleet) (c : Nat) (req : Request) :
    (f.serve p env c req).2 = (whServerHandleSheRequest p env (f.server c) req).2 := rfl

theorem serve_twin_other {c d : Nat} (hne : d ≠ c) (f : Fleet) (req : Request) :
    Twin p c ((f.serve p env d req).1.server c) (f.server c) where
  she := Function.update_noteq (Ne.symm hne) _ _
  client₁ := rfl
  client₂ := rfl
  keys id hid := (dispatch_confined p env (f.server d) req).keys id fun _ _ e =>
    hne ((congrArg KeyId.user e).symm.trans hid.2)

theorem serve_keys_foreign {id : KeyId} (hid : id.type ≠ p.keyTypeShe) (f : Fleet) (d : Nat)
    (req : Request) : (f.serve p env d req).1.keys id = f.keys id :=
  (dispatch_confined p env (f.server d) req).keys id fun _ _ e => hid (congrArg KeyId.type e)

/-! ## Interleavings -/

theorem runs_twin_alone {c : Nat} {f : Fleet} {s : Server} (ht : Twin p c (f.server c) s)
    (reqs : List (Nat × Request)) :
    own c (f.replies p env reqs) = (trace p env s (own c reqs)).map Step.reply ∧
      Twin p c ((f.runs p env reqs).server c) (run p env s (own c reqs)) := by
  induction reqs generalizing f s with
  | nil => exact ⟨rfl, ht⟩
  | cons x reqs ih =>
    obtain ⟨d, req⟩ := x
    by_cases hd : d = c
    · subst hd
      have ⟨hr, ht'⟩ := dispatch_twin p env ht req
      rw [← serve_server_self] at ht'
      have ⟨ihr, iht⟩ := ih ht'
      refine ⟨?_, by simpa only [Fleet.runs, own_cons_self, run] using iht⟩
      simp only [Fleet.replies, own_cons_self, trace, List.map_cons, ihr, serve_snd, hr]
    · have ⟨ihr, iht⟩ := ih ((serve_twin_other p env hd f req).trans ht)
      simp only [Fleet.replies, Fleet.runs, own_cons_other hd]
      exact ⟨ihr, iht⟩

theorem runs_keys_foreign {id : KeyId} (hid : id.type ≠ p.keyTypeShe) (f : Fleet)
    (reqs : List (Nat × Request)) : (f.runs p env reqs).keys id = f.keys id := by
  induction reqs generalizing f with
  | nil => rfl
  | cons x reqs ih => exact (ih _).trans (serve_keys_foreign p env hid f x.1 x.2)

/-- Over any interleaving each client gets the replies, and the state, of a server of its own. -/
theorem clients_served_as_alone (f : Fleet) (reqs : List (Nat × Request)) (c : Nat) :
    own c (f.replies p env reqs) = (trace p env (f.server c) (own c reqs)).map Step.reply ∧
      Twin p c ((f.runs p env reqs).server c) (run p env (f.server c) (own c reqs)) :=
  runs_twin_alone p env (Twin.refl _ rfl) reqs

/-- Interleavings of the same requests of each client give the same replies and the same fleet. -/
theorem interleavings_commute (f : Fleet) {reqs reqs' : List (Nat × Request)}
    (h : ∀ c, own c reqs = own c reqs') :
    f.runs p env reqs = f.runs p env reqs' ∧
      ∀ c, own c (f.replies p env reqs) = own c (f.replies p env reqs') := by
  have alone (c : Nat) := runs_twin_alone p env (Twin.refl (f.server c) rfl) reqs
  have alone' (c : Nat) := runs_twin_alone p env (Twin.refl (f.server c) rfl) reqs'
  refine ⟨Fleet.ext (funext fun c => ?_) (funext fun id => ?_), fun c => ?_⟩
  · exact (alone c).2.she.trans (h c ▸ alone' c).2.she.symm
  · by_cases ht : id.type = p.keyTypeShe
    · have hid : Owned p id.user id := ⟨ht, rfl⟩
      exact ((alone _).2.keys id hid).trans ((h _ ▸ alone' _).2.keys id hid).symm
    · rw [runs_keys_foreign p env ht, runs_keys_foreign p env ht]
  · rw [(alone c).1, (alone' c).1, h c]

def Fleet.sample : Fleet :=
  ⟨fun _ => (Server.sampleBooted (Platform.sample .big) Env.sample).she,
    (Server.sampleBooted (Platform.sample .big) Env.sample).keys⟩

theorem interleavings_commute_sample :
    let reqs := [(0, Request.loadPlainKey (.replicate 16 0x42)),
      (1, .encEcb 1 16 (List.replicate 16 0x5a)), (0, .exportRamKey)]
    let reqs' := [(1, Request.encEcb 1 16 (List.replicate 16 0x5a)),
      (0, .loadPlainKey (.replicate 16 0x42)), (0, .exportRamKey)]
    (∀ c, own c reqs = own c reqs') ∧
      Fleet.sample.runs (Platform.sample .big) Env.sample reqs =
          Fleet.sample.runs (Platform.sample .big) Env.sample reqs' ∧
        ∀ c, own c (Fleet.sample.replies (Platform.sample .big) Env.sample reqs) =
          own c (Fleet.sample.replies (Platform.sample .big) Env.sample reqs') :=
  have h : ∀ c, own c [(0, Request.loadPlainKey (.replicate 16 0x42)),
      (1, .encEcb 1 16 (List.replicate 16 0x5a)), (0, .exportRamKey)] =
        own c [(1, Request.encEcb 1 16 (List.replicate 16 0x5a)),
          (0, .loadPlainKey (.replicate 16 0x42)), (0, .exportRamKey)] := fun c => by
    simp only [own, List.filterMap_cons, List.filterMap_nil]
    split_ifs <;> first | rfl | omega
  ⟨h, interleavings_commute _ _ _ h⟩

end WolfHsmShe
