namespace Markbook.Text.Utf8

/-- Where decoding stopped: the index of the faulty sequence, and how many bytes it spans, or
nothing when the text ended inside of it. -/
structure Error where
  start : Nat
  length : Option Nat
deriving DecidableEq, Repr

def Error.message (e : Error) : String :=
  match e.length with
  | some n => s!"invalid utf-8 sequence of {n} bytes from index {e.start}"
  | none => s!"incomplete utf-8 byte sequence from index {e.start}"

def isTail (b : UInt8) : Bool :=
  0x80 ≤ b && b ≤ 0xBF

/-- The least and the greatest second byte after `lead`, and the number of bytes after the second;
nothing when `lead` opens no sequence of several bytes. -/
def shape (lead : UInt8) : Option (UInt8 × UInt8 × Nat) :=
  if lead < 0xC2 then none
  else if lead ≤ 0xDF then some (0x80, 0xBF, 0)
  else if lead = 0xE0 then some (0xA0, 0xBF, 1)
  else if lead = 0xED then some (0x80, 0x9F, 1)
  else if lead ≤ 0xEF then some (0x80, 0xBF, 1)
  else if lead = 0xF0 then some (0x90, 0xBF, 2)
  else if lead ≤ 0xF3 then some (0x80, 0xBF, 2)
  else if lead = 0xF4 then some (0x80, 0x8F, 2)
  else none

def next (lead : UInt8) (rest : List UInt8) : Except (Option Nat) (Char × Nat) :=
  if lead < 0x80 then .ok (Char.ofNat lead.toNat, 1)
  else
    match shape lead with
    | none => .error (some 1)
    | some (low, high, more) =>
      match rest with
      | [] => .error none
      | second :: rest =>
        if second < low || high < second then .error (some 1)
        else
          let tail := rest.take more
          let good := tail.takeWhile isTail
          if good.length < tail.length then .error (some (2 + good.length))
          else if tail.length < more then .error none
          else
            let top := lead.toNat % (if more = 0 then 32 else if more = 1 then 16 else 8)
            let code := (second :: tail).foldl (fun n b => 64 * n + b.toNat % 64) top
            .ok (Char.ofNat code, 2 + more)

/-- Decodes `bytes`, of which `pos` bytes went before; `fuel` bounds the number of characters. -/
def decodeFrom : Nat → Nat → List UInt8 → Except Error (List Char)
  | _, _, [] => .ok []
  | 0, _, _ :: _ => .ok []
  | fuel + 1, pos, b :: bs =>
    match next b bs with
    | .error n => .error ⟨pos, n⟩
    | .ok (c, n) =>
      match decodeFrom fuel (pos + n) (bs.drop (n - 1)) with
      | .error e => .error e
      | .ok cs => .ok (c :: cs)

def decode (bytes : List UInt8) : Except Error (List Char) :=
  decodeFrom bytes.length 0 bytes

def decodeLossyFrom : Nat → List UInt8 → List Char
  | _, [] => []
  | 0, _ :: _ => []
  | fuel + 1, b :: bs =>
    match next b bs with
    | .error none => ['�']
    | .error (some n) => '�' :: decodeLossyFrom fuel (bs.drop (n - 1))
    | .ok (c, n) => c :: decodeLossyFrom fuel (bs.drop (n - 1))

def decodeLossy (bytes : List UInt8) : List Char :=
  decodeLossyFrom bytes.length bytes

def encodeChar (c : Char) : List UInt8 :=
  let n := c.toNat
  let tail (k : Nat) : UInt8 := UInt8.ofNat (0x80 + k % 64)
  if n < 0x80 then [UInt8.ofNat n]
  else if n < 0x800 then [UInt8.ofNat (0xC0 + n / 64), tail n]
  else if n < 0x10000 then [UInt8.ofNat (0xE0 + n / 4096), tail (n / 64), tail n]
  else [UInt8.ofNat (0xF0 + n / 262144), tail (n / 4096), tail (n / 64), tail n]

def encode (cs : List Char) : List UInt8 :=
  cs.flatMap encodeChar

end Markbook.Text.Utf8
