import IotgoFirmware.Library.CIntegers
import IotgoFirmware.Library.CStrings
import IotgoFirmware.Library.LoopRules
import IotgoFirmware.Library.RingQueues

/-!
# Frames on the serial line to the MCU

The interrupt handler puts the bytes of UART0 into a ring of 1024 cells. Every
100 ms `parseU2artData` looks for a preamble, works out how long the data is, takes
the data when all of it is there, and runs the command that it holds. What it has
found is kept in `u2art_data`; that the length has been read is kept in a static
variable of its own, as is the count of calls that ends a frame which does not come.

The parser is written over any byte queue, so that the ring and the list of the
bytes it holds are two instances of one text. The JSON parser and the table of
commands belong to other files.
-/

namespace IotgoFirmware.Uart.U2artSchedule

open IotgoFirmware.Library.CIntegers
open IotgoFirmware.Library.CStrings
open IotgoFirmware.Library.LoopRules
open IotgoFirmware.Library.RingQueues

set_option autoImplicit false

def uart0RxBufferSize : Nat := 1024

class ByteQueue (Queue : Type) where
  uart0RxAvailable : Queue → Nat
  uart0RxRead : Queue → UInt8 × Queue
  uart0RxWrite : Queue → UInt8 → Queue

open ByteQueue

abbrev RxBuffer : Type := Ring UInt8 1024

instance rxBufferCells : NeZero 1024 := ⟨by decide⟩

instance : ByteQueue RxBuffer where
  uart0RxAvailable := Ring.available
  uart0RxRead buffer :=
    match buffer.pop with
    | none => (0xFF, buffer)
    | some read => read
  uart0RxWrite := Ring.push

/-- The same as a list of the bytes that are in the ring. -/
instance : ByteQueue (List UInt8) where
  uart0RxAvailable := List.length
  uart0RxRead
    | [] => (0xFF, [])
    | byte :: rest => (byte, rest)
  uart0RxWrite stored byte :=
    if stored.length + 1 = uart0RxBufferSize then stored else stored ++ [byte]

def readUart0Buffer : Nat := 1024

def timeroutTime : Nat := 50

inductive U2artError where
  | null
  | success
  | noSupport
  | formatError
  | insideError
  | invalidParams
  | illegalOperation
  | crc32Error
  | busyError
  | gmtError
  | networkError
  deriving DecidableEq

/-- What the parser reads of a parsed text: whether it is an array, and the string of
each of its elements, for those that are strings. -/
structure CJson where
  isArray : Bool
  items : List (Option (List UInt8))
  deriving DecidableEq

structure Cmd where
  cmd : List UInt8
  action : Bool

structure CmdProcessor where
  cJSONParse : List UInt8 → Option CJson
  cmd : List Cmd

/-- No action of the table returns `U2ART_NULL`. -/
abbrev CmdAnswer : Type := { answer : U2artError // answer ≠ .null }

structure U2artData where
  start : Bool
  cf : Bool
  length : Nat
  extendLength : Nat
  crc32 : Nat
  root : Option CJson
  deriving DecidableEq

def U2artData.zero : U2artData where
  start := false
  cf := false
  length := 0
  extendLength := 0
  crc32 := 0
  root := none

inductive U2artEffect where
  | cJSONParse (text : List UInt8)
  | crcError
  | processCmd (root : Option CJson)
  | action (cmd : List UInt8)
  | cmdSendRetToMcu (data : List UInt8)
  deriving DecidableEq

structure U2art (Queue : Type) where
  rxBuffer : Queue
  data : U2artData
  result : U2artError
  getLength : Bool
  timeroutCouter : Nat
  log : List U2artEffect
  deriving DecidableEq

section Crc

def crcTable : List (BitVec 32) :=
  [0x0, 0x1db71064, 0x3b6e20c8, 0x26d930ac,
    0x76dc4190, 0x6b6b51f4, 0x4db26158, 0x5005713c,
    0xedb88320, 0xf00f9344, 0xd6d6a3e8, 0xcb61b38c,
    0x9b64c2b0, 0x86d3d2d4, 0xa00ae278, 0xbdbdf21c]

def crcNibble (reg : BitVec 32) (nibble : Nat) : BitVec 32 :=
  (reg >>> 4) ^^^ crcTable.getD ((reg.toNat &&& 0x0F) ^^^ nibble) 0

def crcByte (reg : BitVec 32) (byte : UInt8) : BitVec 32 :=
  crcNibble (crcNibble reg (byte.toNat &&& 0x0F)) (byte.toNat >>> 4)

def getCrc32 (data : List UInt8) : Nat :=
  (~~~ (data.foldl crcByte 0xFFFFFFFF)).toNat

end Crc

section Encoder

/-- Two bytes of a length, the high one first. -/
def lengthBytes2 (length : Nat) : List UInt8 :=
  [UInt8.ofNat (length / 256), UInt8.ofNat (length % 256)]

def lengthBytes4 (word : Nat) : List UInt8 :=
  [UInt8.ofNat (word / 65536 / 256), UInt8.ofNat (word / 65536 % 256),
    UInt8.ofNat (word % 65536 / 256), UInt8.ofNat (word % 65536 % 256)]

/-- `len` is a `uint16`. -/
def uart0TxBuffer (buf : List UInt8) (len : Nat) : List UInt8 :=
  buf.take (len % 65536)

/-- The length byte, and the bytes of a length that it has no room for. -/
def declaredLength (crcEnable : Bool) (dataLen : Nat) : List UInt8 :=
  if dataLen ≤ 125 then
    [UInt8.ofNat (if crcEnable then dataLen ||| 0x80 else dataLen)]
  else if dataLen ≤ 65535 then
    (if crcEnable then 0xfe else 0x7e) :: lengthBytes2 dataLen
  else
    (if crcEnable then 0xff else 0x7f) :: lengthBytes4 dataLen

/-- The length that `getCrc32` gets is an `int`. -/
def checksumBytes (crcEnable : Bool) (data : List UInt8) (dataLen : Nat) : List UInt8 :=
  if crcEnable then lengthBytes4 (getCrc32 (data.take (sint32 dataLen).toNat)) else []

/-- The bytes that go to the line; none when the data is refused. -/
def cmdSendDataToMcu (crcEnable : Bool) (data : Option (List UInt8)) (length : Nat) :
    List UInt8 :=
  match data with
  | none => []
  | some data =>
      if length = 0 then []
      else
        0xAA :: 0x55 :: (declaredLength crcEnable length ++ checksumBytes crcEnable data length ++
          uart0TxBuffer data length)

end Encoder

section Parser

variable {Queue : Type} [ByteQueue Queue]

def emit (state : U2art Queue) (effect : U2artEffect) : U2art Queue :=
  { state with log := state.log ++ [effect] }

def word16 (a b : UInt8) : Nat :=
  a.toNat <<< 8 ||| b.toNat

def word32 (a b c d : UInt8) : Nat :=
  a.toNat <<< 24 ||| b.toNat <<< 16 ||| c.toNat <<< 8 ||| d.toNat

def readWord16 (buffer : Queue) : Nat × Queue :=
  let a := uart0RxRead buffer
  let b := uart0RxRead a.2
  (word16 a.1 b.1, b.2)

def readWord32 (buffer : Queue) : Nat × Queue :=
  let a := uart0RxRead buffer
  let b := uart0RxRead a.2
  let c := uart0RxRead b.2
  let d := uart0RxRead c.2
  (word32 a.1 b.1 c.1 d.1, d.2)

def getExtendLength (state : U2art Queue) : Bool × U2art Queue :=
  if state.data.length < 126 ∧ 0 < state.data.length then
    (true, { state with data := { state.data with extendLength := 0 } })
  else if state.data.length = 126 then
    if 2 ≤ uart0RxAvailable state.rxBuffer then
      let read := readWord16 state.rxBuffer
      (true, { state with
        rxBuffer := read.2
        data := { state.data with extendLength := read.1 } })
    else (false, state)
  else if state.data.length = 127 then
    if 4 ≤ uart0RxAvailable state.rxBuffer then
      let read := readWord32 state.rxBuffer
      (true, { state with
        rxBuffer := read.2
        data := { state.data with extendLength := read.1 } })
    else (false, state)
  else (false, { state with result := .formatError })

/-- The loop of `getData` between two passes. -/
structure DataLoop (Queue : Type) where
  i : Nat
  getCrc32Flag : Bool
  uart0Buffer : List UInt8
  state : U2art Queue

/-- The index `i` is eight bits wide. -/
def getDataBody (length : Nat) (head : DataLoop Queue) : LoopStep (DataLoop Queue) :=
  if head.i < length then
    let checked : U2art Queue :=
      if head.state.data.cf ∧ head.getCrc32Flag = false then
        let read := readWord32 head.state.rxBuffer
        { head.state with
          rxBuffer := read.2
          data := { head.state.data with crc32 := read.1 } }
      else head.state
    let e := uart0RxRead checked.rxBuffer
    .again {
      i := (head.i + 1) % 256
      getCrc32Flag := head.getCrc32Flag || head.state.data.cf
      uart0Buffer := head.uart0Buffer.set head.i e.1
      state := { checked with rxBuffer := e.2 } }
  else .exit head

def dataLoopStart (state : U2art Queue) : DataLoop Queue where
  i := 0
  getCrc32Flag := false
  uart0Buffer := List.replicate readUart0Buffer 0
  state := state

def crcResult (cf : Bool) (data : List UInt8) : Nat :=
  if cf then getCrc32 data else 0

/-- What `getData` does with the bytes it has read. -/
def checkData (processor : CmdProcessor) (length : Nat) (read : DataLoop Queue) :
    Bool × U2art Queue :=
  if crcResult read.state.data.cf (read.uart0Buffer.take length) = read.state.data.crc32 then
    let text := cString read.uart0Buffer
    let root := processor.cJSONParse text
    let parsed := emit { read.state with data := { read.state.data with root := root } }
      (.cJSONParse text)
    if root.any (·.isArray) then (true, parsed)
    else (false, { parsed with result := .formatError })
  else (false, emit { read.state with result := .crc32Error } .crcError)

def dataLength (data : U2artData) : Nat :=
  if 126 ≤ data.length then data.extendLength else data.length

/-- With the checksum that stands before the data. -/
def dataLen (data : U2artData) : Nat :=
  if data.cf then (dataLength data + 4) % 4294967296 else dataLength data

/-- No result where the loop does not end; 256 passes see every value of the index. -/
def getData (processor : CmdProcessor) (state : U2art Queue) : Option (Bool × U2art Queue) :=
  let length := dataLength state.data
  if readUart0Buffer < length then
    some (false, { state with result := .formatError })
  else if dataLen state.data ≤ uart0RxAvailable state.rxBuffer then
    match iterate (getDataBody length) 256 (dataLoopStart state) with
    | .again _ => none
    | .exit read => some (checkData processor length read)
  else some (false, state)

/-- No result where the name is read through a null pointer. -/
def processCmd (processor : CmdProcessor) (answer : CmdAnswer) (state : U2art Queue) :
    Option (U2art Queue) :=
  let entered := emit state (.processCmd state.data.root)
  match (state.data.root.filter (·.isArray)).bind (·.items[0]?) with
  | none => some { entered with result := .formatError }
  | some none => if processor.cmd = [] then some { entered with result := .noSupport } else none
  | some (some valuestring) =>
      match processor.cmd.find? (fun cmd => cmd.cmd = valuestring) with
      | some cmd =>
          if cmd.action then some { emit entered (.action cmd.cmd) with result := answer.1 }
          else some { entered with result := .insideError }
      | none => some { entered with result := .noSupport }

def errorCode : U2artError → Option (List UInt8)
  | .noSupport => some (asciiBytes "100")
  | .formatError => some (asciiBytes "101")
  | .insideError => some (asciiBytes "102")
  | .invalidParams => some (asciiBytes "103")
  | .illegalOperation => some (asciiBytes "104")
  | .crc32Error => some (asciiBytes "105")
  | .gmtError => some (asciiBytes "201")
  | .networkError => some (asciiBytes "202")
  | .busyError => some (asciiBytes "106")
  | .null | .success => none

def processErrorCmd (state : U2art Queue) : U2art Queue :=
  { state with
    data := .zero
    result := .null
    log := state.log ++ ((errorCode state.result).map .cmdSendRetToMcu).toList }

def processResult (state : U2art Queue) : U2art Queue :=
  if state.result = .null then state else processErrorCmd state

def findPreambleBody (state : U2art Queue) : LoopStep (U2art Queue) :=
  if 3 ≤ uart0RxAvailable state.rxBuffer then
    let a := uart0RxRead state.rxBuffer
    if a.1 ≠ 0xAA then .again { state with rxBuffer := a.2 }
    else
      let b := uart0RxRead a.2
      if b.1 = 0x55 then
        let c := uart0RxRead b.2
        .exit { state with
          rxBuffer := c.2
          timeroutCouter := 0
          data := { state.data with
            start := true
            cf := c.1 >>> 7 = 1
            length := (c.1 &&& 0x7f).toNat } }
      else .again { state with rxBuffer := b.2 }
  else .exit state

/-- Every pass takes a byte from the buffer. -/
def findPreamble (state : U2art Queue) : U2art Queue :=
  match iterate findPreambleBody (uart0RxAvailable state.rxBuffer + 1) state with
  | .again last => last
  | .exit found => found

def readLength (state : U2art Queue) : U2art Queue :=
  let measured := getExtendLength state
  if measured.2.result = .null then { measured.2 with getLength := measured.1 }
  else processErrorCmd { measured.2 with getLength := false }

def readData (processor : CmdProcessor) (answer : CmdAnswer) (state : U2art Queue) :
    Option (U2art Queue) :=
  (getData processor state).bind fun read =>
    (if read.1 then
      (processCmd processor answer read.2).map ({ · with getLength := false })
    else some read.2).map processResult

def takeLength (state : U2art Queue) : U2art Queue :=
  if state.getLength then state else readLength state

def takeData (processor : CmdProcessor) (answer : CmdAnswer) (state : U2art Queue) :
    Option (U2art Queue) :=
  if state.getLength then readData processor answer state else some state

def takePreamble (state : U2art Queue) : U2art Queue :=
  if state.data.start then state else findPreamble state

def takeFrame (processor : CmdProcessor) (answer : CmdAnswer) (state : U2art Queue) :
    Option (U2art Queue) :=
  if state.data.start then takeData processor answer (takeLength state) else some state

def checkTimerout (state : U2art Queue) : U2art Queue :=
  if timeroutTime ≤ state.timeroutCouter then
    processErrorCmd { state with timeroutCouter := 0, result := .null }
  else state

def countCall (state : U2art Queue) : U2art Queue :=
  { state with timeroutCouter := (state.timeroutCouter + 1) % 256 }

def parseU2artData (processor : CmdProcessor) (answer : CmdAnswer) (state : U2art Queue) :
    Option (U2art Queue) :=
  (takeFrame processor answer (takePreamble (countCall state))).map checkTimerout

/-- A byte comes in, or the timer calls the parser; the answer is that of the action,
when one is called. -/
inductive U2artEvent where
  | uart0RxWrite (byte : UInt8)
  | parseU2artData (answer : CmdAnswer)

def u2artStep (processor : CmdProcessor) (state : U2art Queue) : U2artEvent → Option (U2art Queue)
  | .uart0RxWrite byte => some { state with rxBuffer := uart0RxWrite state.rxBuffer byte }
  | .parseU2artData answer => parseU2artData processor answer state

end Parser

def U2art.initial {Queue : Type} (rxBuffer : Queue) : U2art Queue where
  rxBuffer := rxBuffer
  data := .zero
  result := .null
  getLength := false
  timeroutCouter := 0
  log := []

end IotgoFirmware.Uart.U2artSchedule
