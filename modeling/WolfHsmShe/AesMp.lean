import WolfHsmShe.State

/-! # The Miyaguchi-Preneel KDF `wh_AesMp16` and the SHE constants -/

namespace WolfHsmShe

/-! ## Constants -/

def sheKeyUpdateEncC : List Byte :=
  [0x01, 0x01, 0x53, 0x48, 0x45, 0x00, 0x80, 0x00, 0x00, 0x00, 0x00, 0x00, 0x00, 0x00, 0x00, 0xB0]

def sheKeyUpdateMacC : List Byte :=
  [0x01, 0x02, 0x53, 0x48, 0x45, 0x00, 0x80, 0x00, 0x00, 0x00, 0x00, 0x00, 0x00, 0x00, 0x00, 0xB0]

def shePrngKeyC : List Byte :=
  [0x01, 0x04, 0x53, 0x48, 0x45, 0x00, 0x80, 0x00, 0x00, 0x00, 0x00, 0x00, 0x00, 0x00, 0x00, 0xB0]

def shePrngSeedKeyC : List Byte :=
  [0x01, 0x05, 0x53, 0x48, 0x45, 0x00, 0x80, 0x00, 0x00, 0x00, 0x00, 0x00, 0x00, 0x00, 0x00, 0xB0]

/-! ## The KDF loop -/

/-- The blocks the loop of `wh_AesMp16` copies into `paddedInput`, the last one zero-padded. -/
def mpBlocks : Nat → List Byte → List Block
  | 0, _ => []
  | _ + 1, [] => []
  | fuel + 1, l@(_ :: _) => readIn l 16 :: mpBlocks fuel (l.drop 16)

/-- The loop of `wh_AesMp16` from the chaining value `h`: what `out` holds at the end, and `ret`. -/
def mpLoop (env : Env) : Block → Block → List Block → Block × Except Err Unit
  | out, _, [] => (out, .ok ())
  | out, h, m :: ms =>
    match env.aesEncrypt h m with
    | .error e => (xorBlock (xorBlock out m) h, .error e)
    | .ok c =>
      let o := xorBlock (xorBlock c m) h
      match env.aesSetKey o with
      | .error e => (o, .error e)
      | .ok () => mpLoop env o o ms

/-- The function `wh_AesMp16(server, in, inSz, out)`, with `out` holding `out₀` before. -/
def whAesMp16 (env : Env) (out₀ : Block) (input : List Byte) : Block × Except Err Unit :=
  if input = [] then (out₀, .error .badArgs)
  else
    match env.aesSetKey zeroBlock with
    | .error e => (out₀, .error e)
    | .ok () => mpLoop env out₀ zeroBlock (mpBlocks input.length input)

/-- The key `wh_AesMp16` derives into a local buffer, or its `ret`. -/
def aesMp16 (env : Env) (input : List Byte) : Except Err Block :=
  match whAesMp16 env zeroBlock input with
  | (out, .ok ()) => .ok out
  | (_, .error e) => .error e

end WolfHsmShe
