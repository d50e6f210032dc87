/-!
# BLAKE3

The 256-bit BLAKE3 digest of a byte string, without a key. The input is cut
into chunks of 1024 bytes, each chunk into blocks of 64; every chunk is
compressed to a chaining value, and neighbouring values are joined pairwise
until the root is left. Nothing about collisions is stated.
-/

namespace MazeRobot.Blake3

/-- Eight words handed from one compression to the next. -/
abbrev Chaining := Vector UInt32 8

/-- Sixteen words: a message block, or the working state. -/
abbrev Block := Vector UInt32 16

/-- The initial chaining value. -/
def initial : Chaining :=
  #v[0x6A09E667, 0xBB67AE85, 0x3C6EF372, 0xA54FF53A,
     0x510E527F, 0x9B05688C, 0x1F83D9AB, 0x5BE0CD19]

/-- Marks the first block of a chunk. -/
def chunkStart : UInt32 := 1

/-- Marks the last block of a chunk. -/
def chunkEnd : UInt32 := 2

/-- Marks a join of two chaining values. -/
def parent : UInt32 := 4

/-- Marks the last compression of all. -/
def root : UInt32 := 8

/-- Rotates a word to the right. -/
def rotate (w n : UInt32) : UInt32 :=
  (w >>> n) ||| (w <<< (32 - n))

/-- Mixes two message words into one column or diagonal. -/
def mix (v : Block) (a b c d : Fin 16) (x y : UInt32) : Block :=
  let wa := v[a] + v[b] + x
  let wd := rotate (v[d] ^^^ wa) 16
  let wc := v[c] + wd
  let wb := rotate (v[b] ^^^ wc) 12
  let wa := wa + wb + y
  let wd := rotate (wd ^^^ wa) 8
  let wc := wc + wd
  let wb := rotate (wb ^^^ wc) 7
  (((v.set a wa).set b wb).set c wc).set d wd

/-- One round: the four columns, then the four diagonals. -/
def round (v m : Block) : Block :=
  let v := mix v 0 4 8 12 m[0] m[1]
  let v := mix v 1 5 9 13 m[2] m[3]
  let v := mix v 2 6 10 14 m[4] m[5]
  let v := mix v 3 7 11 15 m[6] m[7]
  let v := mix v 0 5 10 15 m[8] m[9]
  let v := mix v 1 6 11 12 m[10] m[11]
  let v := mix v 2 7 8 13 m[12] m[13]
  mix v 3 4 9 14 m[14] m[15]

/-- The order in which the next round takes the message words. -/
def permute (m : Block) : Block :=
  #v[m[2], m[6], m[3], m[10], m[7], m[0], m[4], m[13],
     m[1], m[11], m[12], m[5], m[9], m[14], m[15], m[8]]

/-- Some rounds, the message permuted between them. -/
def rounds : Nat → Block → Block → Block
  | 0, v, _ => v
  | n + 1, v, m => rounds n (round v m) (permute m)

/-- Compresses one block: `counter` numbers the chunk, `length` is the number
of message bytes in the block. -/
def compress (cv : Chaining) (m : Block) (counter : UInt64) (length flags : UInt32) :
    Chaining :=
  let v : Block :=
    #v[cv[0], cv[1], cv[2], cv[3], cv[4], cv[5], cv[6], cv[7],
       initial[0], initial[1], initial[2], initial[3],
       counter.toUInt32, (counter >>> 32).toUInt32, length, flags]
  let w := rounds 7 v m
  #v[w[0] ^^^ w[8], w[1] ^^^ w[9], w[2] ^^^ w[10], w[3] ^^^ w[11],
     w[4] ^^^ w[12], w[5] ^^^ w[13], w[6] ^^^ w[14], w[7] ^^^ w[15]]

/-- The byte at an index; past the end the input is padded with zeros. -/
def byteAt (bytes : ByteArray) (i : Nat) : UInt32 :=
  if h : i < bytes.size then bytes[i].toUInt32 else 0

/-- The little-endian word that begins at an index below `stop`. -/
def wordAt (bytes : ByteArray) (stop i : Nat) : UInt32 :=
  let pick (k : Nat) : UInt32 := if i + k < stop then byteAt bytes (i + k) else 0
  pick 0 ||| (pick 1 <<< 8) ||| (pick 2 <<< 16) ||| (pick 3 <<< 24)

/-- The block of bytes from `start` up to `stop`, padded with zeros. -/
def blockAt (bytes : ByteArray) (start stop : Nat) : Block :=
  Vector.ofFn fun i => wordAt bytes stop (start + 4 * i.val)

/-- Compresses the blocks of one chunk, the bytes from `start` up to `stop`.
`count` is the number of blocks still to come, `first` tells whether this one
opens the chunk, and `last` holds the marks of the block that closes it. -/
def compressBlocks (bytes : ByteArray) (stop : Nat) (counter : UInt64) (last : UInt32) :
    Nat → Nat → Bool → Chaining → Chaining
  | 0, _, _, cv => cv
  | count + 1, start, first, cv =>
    let closing := count == 0
    let size := if closing then stop - start else 64
    let flags := (if first then chunkStart else 0) ||| (if closing then last else 0)
    compressBlocks bytes stop counter last count (start + 64) false
      (compress cv (blockAt bytes start stop) counter (UInt32.ofNat size) flags)

/-- The chaining value of the chunk with number `index`; `extra` marks the
root when the chunk is the only one. -/
def chunk (bytes : ByteArray) (extra : UInt32) (index : Nat) : Chaining :=
  let start := index * 1024
  let stop := min bytes.size (start + 1024)
  let blocks := max 1 ((stop - start + 63) / 64)
  compressBlocks bytes stop (UInt64.ofNat index) (chunkEnd ||| extra) blocks start true initial

/-- Joins two neighbouring chaining values. -/
def join (extra : UInt32) (left right : Chaining) : Chaining :=
  compress initial
    #v[left[0], left[1], left[2], left[3], left[4], left[5], left[6], left[7],
       right[0], right[1], right[2], right[3], right[4], right[5], right[6], right[7]]
    0 64 (parent ||| extra)

/-- Joins neighbours pairwise; an odd one at the end stays for the next level. -/
def joinPairs : List Chaining → List Chaining
  | left :: right :: rest => join 0 left right :: joinPairs rest
  | rest => rest

/-- Joins level by level until two values are left, whose join is the root.
A level at least halves the list, so its length bounds the levels. -/
def joinAll : Nat → List Chaining → Chaining
  | _, [] => initial
  | _, [only] => only
  | _, [left, right] => join root left right
  | 0, first :: _ => first
  | level + 1, many => joinAll level (joinPairs many)

/-- The digest as eight words. -/
def digest (bytes : ByteArray) : Chaining :=
  let chunks := max 1 ((bytes.size + 1023) / 1024)
  if chunks = 1 then chunk bytes root 0
  else joinAll chunks ((List.range chunks).map (chunk bytes 0))

/-- A digit of a hexadecimal numeral, in lower case. -/
def hexDigit (n : Nat) : Char :=
  if n < 10 then Char.ofNat (48 + n) else Char.ofNat (87 + n)

/-- The two digits of a byte, the high one first. -/
def hexByte (w : UInt32) : List Char :=
  [hexDigit (w.toNat / 16 % 16), hexDigit (w.toNat % 16)]

/-- The digits of a word, its low byte first. -/
def hexWord (w : UInt32) : List Char :=
  hexByte (w &&& 255) ++ hexByte ((w >>> 8) &&& 255) ++ hexByte ((w >>> 16) &&& 255) ++
    hexByte ((w >>> 24) &&& 255)

/-- The digest as a hexadecimal numeral of 64 digits. -/
def hex (bytes : ByteArray) : String :=
  String.ofList ((digest bytes).toList.flatMap hexWord)

end MazeRobot.Blake3
