import WolfHsmShe.AesMp

/-! # The AES and CMAC services: `ENC_*`, `DEC_*`, `GEN_MAC` and `VERIFY_MAC` -/

namespace WolfHsmShe

variable (p : Platform) (env : Env)

/-- What the four AES handlers share: load the key `keyId` names, run `op` over the whole blocks. -/
def hsmSheAesMode (op : Block → (n : Nat) → Buf n → Except Err (Buf n)) (keyId : Nat)
    (sz : BitVec 32) (data : List Byte) : SheM Resp := do
  let field := sz - sz % 16
  let key ← readKeyOr p env (.erc .keyNotAvailable) keyId
  let out ← call (op key.key field.toNat (readIn data field.toNat))
  pure (.cipher field out.toList)

def hsmSheEncEcb (keyId : Nat) (sz : BitVec 32) (data : List Byte) : SheM Resp :=
  hsmSheAesMode p env env.ecbEncrypt keyId sz data

def hsmSheEncCbc (keyId : Nat) (sz : BitVec 32) (iv : Block) (data : List Byte) : SheM Resp :=
  hsmSheAesMode p env (fun key => env.cbcEncrypt key iv) keyId sz data

def hsmSheDecEcb (keyId : Nat) (sz : BitVec 32) (data : List Byte) : SheM Resp :=
  hsmSheAesMode p env env.ecbDecrypt keyId sz data

def hsmSheDecCbc (keyId : Nat) (sz : BitVec 32) (iv : Block) (data : List Byte) : SheM Resp :=
  hsmSheAesMode p env (fun key => env.cbcDecrypt key iv) keyId sz data

def hsmSheGenerateMac (keyId : Nat) (sz : BitVec 32) (data : List Byte) : SheM Resp := do
  let key ← readKeyOr p env (.erc .keyNotAvailable) keyId
  let mac ← cmacGenerate env key.key (readIn data sz.toNat).toList
  pure (.genMac mac)

/-- The handler `hsmSheVerifyMac`: the message, then the MAC at `message + messageLen`. -/
def hsmSheVerifyMac (keyId : Nat) (messageLen macLen : BitVec 32) (data : List Byte) :
    SheM Resp := do
  let key ← readKeyOr p env (.erc .keyNotAvailable) keyId
  let message := (readIn data messageLen.toNat).toList
  modifyShe fun she => { she with sheCmac := ⟨key.key, message⟩ }
  call (env.cmacVerify key.key message (readIn (data.drop messageLen.toNat) macLen.toNat).toList)
  pure (.verifyMac 0)

end WolfHsmShe
