import WolfHsmShe.AesMp

/-! # The key-update protocol: `LOAD_KEY`, `LOAD_PLAIN_KEY` and `EXPORT_RAM_KEY` -/

namespace WolfHsmShe

/-! ## Fields of the messages -/

/-- The function `hsmShePopAuthId`: the low nibble of `M1[15]`. -/
def hsmShePopAuthId (m1 : Buf 16) : Nat := (m1.get 15 &&& 0x0f).toNat

/-- The function `hsmShePopId`: the high nibble of `M1[15]`. -/
def hsmShePopId (m1 : Buf 16) : Nat := ((m1.get 15 &&& 0xf0) >>> 4).toNat

/-- The function `hsmShePopFlags`: the low nibble of `M2[3]`, then the top bit of `M2[4]`. -/
def hsmShePopFlags (m2 : Buf 32) : BitVec 32 :=
  ((m2.get 3 &&& 0x0f).setWidth 32 <<< 4) ||| ((m2.get 4 &&& 0x80).setWidth 32 >>> 7)

/-- The word `*counter` a host reads from the first four bytes of `M2`. -/
def m2Counter (e : Endian) (m2 : Buf 32) : BitVec 32 :=
  load32 e (m2.get 0) (m2.get 1) (m2.get 2) (m2.get 3)

/-- The first four bytes of a counter block after `*counter = w` and `[3] |= 0x08`. -/
def counterPad (e : Endian) (w : BitVec 32) : List Byte :=
  (store32 e w).set 3 ((store32 e w).getD 3 0 ||| 0x08)

/-- The block that is AES-encrypted into `M4`: the padded counter, then twelve more bytes. -/
def counterBlock (e : Endian) (w : BitVec 32) (rest : Buf 12) : Block :=
  ⟨counterPad e w ++ rest.toList, by simp [counterPad]⟩

/-- A message `M4`: the UID, the byte of `ID` and `AUTHID`, then the encrypted counter. -/
def sheM4 (uid : Buf 15) (ids : Byte) (c : Block) : Buf 32 :=
  ⟨uid.toList ++ ids :: c.toList, by simp⟩

/-- The metadata `hsmSheLoadKey` consults: the target's, or the zeroed `meta` if the read failed. -/
def targetMeta : Except Err KeyObj → KeyObj
  | .ok o => o
  | .error _ => ⟨0, 0, zeroBlock⟩

/-- The test `keyRet == WH_ERROR_NOTFOUND`. -/
def isNotFound : Except Err KeyObj → Bool
  | .error .notFound => true
  | _ => false

/-- The UID test of `hsmSheLoadKey`: a zero UID needs `WILDCARD`, any other the session's. -/
def uidRejected (wildcard : BitVec 32) (meta : KeyObj) (m1 : Buf 16) (uid : Buf 15) : Prop :=
  if slice m1 0 15 = Mathlib.Vector.replicate 15 0 then meta.flags &&& wildcard = 0
  else slice m1 0 15 ≠ uid

instance (wildcard : BitVec 32) (meta : KeyObj) (m1 : Buf 16) (uid : Buf 15) :
    Decidable (uidRejected wildcard meta m1 uid) :=
  inferInstanceAs (Decidable (if slice m1 0 15 = Mathlib.Vector.replicate 15 0 then
    meta.flags &&& wildcard = 0 else slice m1 0 15 ≠ uid))

variable (p : Platform) (env : Env)

/-- The byte `(WOLFHSM_SHE_RAM_KEY_ID << 4) | WOLFHSM_SHE_SECRET_KEY_ID`. -/
def exportIds : Byte := BitVec.ofNat 8 ((p.ramKeyId.val <<< 4) ||| p.secretKeyId.val)

/-! ## `LOAD_KEY` -/

/-- The first steps of `hsmSheLoadKey`: check `M3` under `K2`, then decrypt `M2` under `K1`. -/
def loadKeyDecrypt (m1 : Buf 16) (m2 : Buf 32) (m3 : Block) : SheM (Buf 32) := do
  let auth ← readKeyOr p env (.erc .keyNotAvailable) (hsmShePopAuthId m1)
  let k2 ← call (aesMp16 env (auth.key.toList ++ sheKeyUpdateMacC))
  let mac ← cmacGenerate env k2 (m1.toList ++ m2.toList)
  check (m3 ≠ mac) (.erc .keyUpdateError)
  let k1 ← call (aesMp16 env (auth.key.toList ++ sheKeyUpdateEncC))
  call (env.cbcDecrypt k1 zeroBlock 32 m2)

/-- The checks of `hsmSheLoadKey` on the target slot, the UID and the counter. -/
def loadKeyCheck (m1 : Buf 16) (plain : Buf 32) : SheM Unit := do
  let tgt ← readKey p env (hsmShePopId m1)
  check (¬ (isNotFound tgt = true ∨ (targetMeta tgt).flags &&& p.flagWriteProtect = 0))
    (.erc .writeProtected)
  let she ← getShe
  check (uidRejected p.flagWildcard (targetMeta tgt) m1 she.uid) (.erc .keyUpdateError)
  check (isNotFound tgt = false ∧
      ntohl p.endian (m2Counter p.endian plain >>> 4) ≤ ntohl p.endian (targetMeta tgt).count)
    (.erc .keyUpdateError)

/-- The write of `hsmSheLoadKey`: cached for `RAM_KEY`, otherwise added to NVM and read back. -/
def loadKeyWrite (m1 : Buf 16) (plain : Buf 32) : SheM KeyObj := do
  let id := hsmShePopId m1
  let o : KeyObj := ⟨hsmShePopFlags plain, m2Counter p.endian plain >>> 4, slice plain 16 16⟩
  if id = p.ramKeyId then
    orFail (.erc .keyUpdateError) (cacheKey p env id o)
    pure o
  else
    orFail (.erc .keyUpdateError) (addObject p env id o)
    readKeyOr p env (.erc .keyUpdateError) id

/-- The end of `hsmSheLoadKey`: `M4` and `M5` for the key written, then `ramKeyPlain`. -/
def loadKeyConfirm (m1 : Buf 16) (plain : Buf 32) (o : KeyObj) : SheM Resp := do
  let k3 ← call (aesMp16 env (o.key.toList ++ sheKeyUpdateEncC))
  call (env.aesSetKey k3)
  let c ← call (env.aesEncrypt k3 (counterBlock p.endian (o.count <<< 4) (slice plain 4 12)))
  let she ← getShe
  let m4 := sheM4 she.uid (m1.get 15) c
  let k4 ← call (aesMp16 env (o.key.toList ++ sheKeyUpdateMacC))
  let m5 ← cmacGenerate env k4 m4.toList
  doIf (hsmShePopId m1 = p.ramKeyId) (modifyShe fun she => { she with ramKeyPlain := true })
  pure (.loadKey m4 m5)

def hsmSheLoadKey (m1 : Buf 16) (m2 : Buf 32) (m3 : Block) : SheM Resp := do
  let plain ← loadKeyDecrypt p env m1 m2 m3
  loadKeyCheck p env m1 plain
  let o ← loadKeyWrite p env m1 plain
  loadKeyConfirm p env m1 plain o

/-! ## `LOAD_PLAIN_KEY` and `EXPORT_RAM_KEY` -/

def hsmSheLoadPlainKey (key : Block) : SheM Resp := do
  match ← cacheKey p env p.ramKeyId ⟨0, 0, key⟩ with
  | .error e => fail e
  | .ok () =>
    modifyShe fun she => { she with ramKeyPlain := true }
    pure .loadPlainKey

theorem hsmSheLoadPlainKey_run (key : Block) (s : Server) :
    hsmSheLoadPlainKey p env key s =
      match env.cacheFault (sheKeyId p s.clientId p.ramKeyId) with
      | some e => (.error e, s)
      | none => (.ok .loadPlainKey,
          { s with
            keys := Function.update s.keys (sheKeyId p s.clientId p.ramKeyId) (some ⟨0, 0, key⟩)
            she := { s.she with ramKeyPlain := true } }) := by
  cases h : env.cacheFault (sheKeyId p s.clientId p.ramKeyId) <;>
    simp [hsmSheLoadPlainKey, cacheKey, writeKey, SheM.bind_run, h]

/-- The cleartext `M2` that `hsmSheExportRamKey` builds around the RAM key. -/
def exportPlain (key : Block) : Buf 32 :=
  ⟨store32 p.endian (ntohl p.endian 1 <<< 4) ++ List.replicate 12 0 ++ key.toList, by simp⟩

def hsmSheExportRamKey : SheM Resp := do
  let she ← getShe
  check (¬ she.ramKeyPlain) (.erc .keyInvalid)
  let secret ← readKeyOr p env (.erc .keyNotAvailable) p.secretKeyId
  let m1 : Buf 16 := ⟨she.uid.toList ++ [exportIds p], by simp⟩
  let k1 ← call (aesMp16 env (secret.key.toList ++ sheKeyUpdateEncC))
  let ram ← readKeyOr p env (.erc .keyNotAvailable) p.ramKeyId
  let m2 ← call (env.cbcEncrypt k1 zeroBlock 32 (exportPlain p ram.key))
  let k2 ← call (aesMp16 env (secret.key.toList ++ sheKeyUpdateMacC))
  let m3 ← cmacGenerate env k2 (m1.toList ++ m2.toList)
  let k3 ← call (aesMp16 env (ram.key.toList ++ sheKeyUpdateEncC))
  call (env.aesSetKey k3)
  let c ← call (env.aesEncrypt k3
    (counterBlock p.endian (ntohl p.endian 1 <<< 4) (Mathlib.Vector.replicate 12 0)))
  let m4 := sheM4 she.uid (exportIds p) c
  let k4 ← call (aesMp16 env (ram.key.toList ++ sheKeyUpdateMacC))
  let m5 ← cmacGenerate env k4 m4.toList
  pure (.exportRamKey m1 m2 m3 m4 m5)

end WolfHsmShe
