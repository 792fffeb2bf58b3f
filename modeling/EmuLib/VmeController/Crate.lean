import EmuLib.VmeController.Agreement

/-!
A crate controller that executes the commands of each packet in their order, and answers with the
data of the reads in it.
-/

namespace EmuLib.VmeController

open Memory List

inductive Command
  | read (address : Nat)
  | write (address : Nat) (data : UInt16)
  | delay (low high : UInt16)
deriving DecidableEq

def wordOf (high low : UInt8) : UInt16 := UInt16.ofNat (0x100 * high.toNat + low.toNat)

def addressOf (high middle low : UInt8) : Nat :=
  0x10000 * high.toNat + 0x100 * middle.toNat + low.toNat

namespace Command

def Fits : Command → Prop
  | read address => address < 0x1000000
  | write address _ => address < 0x1000000
  | delay _ _ => True

def isRead : Command → Bool
  | read _ => true
  | _ => false

def bytes : Command → List UInt8
  | read address => [0x00, 0x44, 0x00, byteOf address 2, byteOf address 1, byteOf address 0]
  | write address data =>
    [0x00, 0x54, 0x00, byteOf address 2, byteOf address 1, byteOf address 0,
      byteOf data.toNat 1, byteOf data.toNat 0]
  | delay low high =>
    if high = 0 then [2, 0x00, byteOf low.toNat 1, byteOf low.toNat 0]
    else
      [5, 0x00, byteOf high.toNat 1, byteOf high.toNat 0, byteOf low.toNat 1,
        byteOf low.toNat 0]

end Command

def parseCommand (bytes : List UInt8) : Command × List UInt8 :=
  let byte := fun index => bytes.getD index 0
  if byte 0 = 2 then (.delay (wordOf (byte 2) (byte 3)) 0, bytes.drop 4)
  else if byte 0 = 5 then
    (.delay (wordOf (byte 4) (byte 5)) (wordOf (byte 2) (byte 3)), bytes.drop 6)
  else if byte 1 = 0x44 then (.read (addressOf (byte 3) (byte 4) (byte 5)), bytes.drop 6)
  else (.write (addressOf (byte 3) (byte 4) (byte 5)) (wordOf (byte 6) (byte 7)), bytes.drop 8)

def parse : Nat → List UInt8 → List Command
  | 0, _ => []
  | count + 1, bytes => (parseCommand bytes).1 :: parse count (parseCommand bytes).2

def commandsIn (packet : Packet) : List Command :=
  parse (0x100 * (packet.getD 2 0).toNat + (packet.getD 3 0).toNat) (packet.drop 4)

lemma byteOf_toNat (value index) :
    (byteOf value index).toNat = value >>> (8 * index) % 0x100 := by
  simp [byteOf]

lemma wordOf_byteOf (data) : wordOf (byteOf data.toNat 1) (byteOf data.toNat 0) = data := by
  have bound := data.toNat_lt
  have parts : 0x100 * (data.toNat >>> 8 % 0x100) + data.toNat % 0x100 = data.toNat := by
    omega
  unfold wordOf
  rw [byteOf_toNat, byteOf_toNat]
  simp only [Nat.mul_one, Nat.mul_zero, Nat.shiftRight_zero, parts, UInt16.ofNat_toNat]

lemma addressOf_byteOf {address} (fits : address < 0x1000000) :
    addressOf (byteOf address 2) (byteOf address 1) (byteOf address 0) = address := by
  unfold addressOf
  simp only [byteOf_toNat, Nat.shiftRight_eq_div_pow]
  omega

lemma parseCommand_bytes (command) (fits : command.Fits) (rest) :
    parseCommand (command.bytes ++ rest) = (command, rest) := by
  cases command with
  | read address => exact congrArg (Command.read ·, rest) (addressOf_byteOf fits)
  | write address data =>
    exact congrArg₂ (Command.write · ·, rest) (addressOf_byteOf fits) (wordOf_byteOf data)
  | delay low high =>
    by_cases short : high = 0
    · rw [short]
      exact congrArg (Command.delay · 0, rest) (wordOf_byteOf low)
    · rw [Command.bytes, if_neg short]
      exact congrArg₂ (Command.delay · ·, rest) (wordOf_byteOf low) (wordOf_byteOf high)

lemma parse_flatMap_bytes (commands) (fits : ∀ command ∈ commands, command.Fits) :
    parse commands.length (commands.flatMap Command.bytes) = commands := by
  induction commands with
  | nil => rfl
  | cons command rest ih =>
    rw [flatMap_cons, length_cons, parse, parseCommand_bytes command (fits command mem_cons_self),
      ih fun other member => fits other (mem_cons_of_mem _ member)]

def packetOf (commands : List Command) : Packet :=
  [0x00, vmeCmds, byteOf commands.length 1, byteOf commands.length 0] ++
    commands.flatMap Command.bytes

lemma count_byteOf {count} (bound : count < 0x10000) :
    0x100 * (byteOf count 1).toNat + (byteOf count 0).toNat = count := by
  simp only [byteOf_toNat, Nat.shiftRight_eq_div_pow]
  omega

lemma commandsIn_packetOf (commands) (fits : ∀ command ∈ commands, command.Fits)
    (counted : commands.length < 0x10000) : commandsIn (packetOf commands) = commands := by
  change parse (0x100 * (byteOf commands.length 1).toNat + (byteOf commands.length 0).toNat)
    (commands.flatMap Command.bytes) = commands
  rw [count_byteOf counted, parse_flatMap_bytes commands fits]

structure Crate (Boards : Type*) where
  execute : Boards → Command → Boards
  answer : Boards → Nat → UInt16
  serverAddr : List UInt8
  crateAddr : List UInt8
  server : serverAddr.length = 6
  crate : crateAddr.length = 6
  addressed : serverAddr ≠ broadcastAddr

def wordBytes (word : UInt16) : List UInt8 := [byteOf word.toNat 1, byteOf word.toNat 0]

def callerBytes (word : UInt16) : List UInt8 := [byteOf word.toNat 0, byteOf word.toNat 1]

namespace Crate

variable {Boards : Type*} (crate : Crate Boards)

def data (boards : Boards) : Command → List UInt16
  | .read address => [crate.answer boards address]
  | _ => []

def serve (boards : Boards) : List Command → Boards × List UInt16
  | [] => (boards, [])
  | command :: rest =>
    let served := serve (crate.execute boards command) rest
    (served.1, crate.data boards command ++ served.2)

def head (words : List UInt16) : List UInt8 :=
  [byteOf (8 + 2 * words.length) 1, byteOf (8 + 2 * words.length) 0, 0, 5, 0, 0, 0, 0,
    byteOf words.length 1, byteOf words.length 0]

def dataPacket (words : List UInt16) : Packet :=
  crate.serverAddr ++ crate.crateAddr ++ head words ++ words.flatMap wordBytes

def reply (words : List UInt16) : List Arrival :=
  if words = [] then [] else [some (crate.dataPacket words)]

def receive (boards : Boards) (packet : Packet) : Boards × List UInt16 :=
  crate.serve boards (commandsIn packet)

lemma serve_append (boards first second) :
    crate.serve boards (first ++ second) =
      ((crate.serve (crate.serve boards first).1 second).1,
        (crate.serve boards first).2 ++ (crate.serve (crate.serve boards first).1 second).2) := by
  induction first generalizing boards with
  | nil => rfl
  | cons command rest ih => simp [serve, ih]

lemma data_length (boards command) :
    (crate.data boards command).length = if command.isRead then 1 else 0 := by
  cases command <;> rfl

lemma serve_length (boards commands) :
    (crate.serve boards commands).2.length = commands.countP Command.isRead := by
  induction commands generalizing boards with
  | nil => rfl
  | cons command rest ih =>
    simp only [serve, length_append, data_length, ih, countP_cons]
    omega

lemma receive_packetOf (boards commands)
    (fits : ∀ command ∈ commands, command.Fits) (counted : commands.length < 0x10000) :
    crate.receive boards (packetOf commands) = crate.serve boards commands := by
  rw [receive, commandsIn_packetOf commands fits counted]

lemma wordBytes_length (words : List UInt16) :
    (words.flatMap wordBytes).length = 2 * words.length := by
  induction words with
  | nil => rfl
  | cons word rest ih =>
    simp only [flatMap_cons, length_append, ih, length_cons, wordBytes, length_nil]
    omega

lemma swap_words (memory) (words : List UInt16) :
    ∀ place, load memory place (2 * words.length) = words.flatMap wordBytes →
      ((List.range words.length).flatMap fun i =>
        [memory (place + 2 * i + 1), memory (place + 2 * i)]) = words.flatMap callerBytes := by
  induction words with
  | nil => intro place loaded; rfl
  | cons word rest ih =>
    intro place loaded
    have size : 2 * (word :: rest).length = 2 + 2 * rest.length := by
      rw [length_cons]
      omega
    rw [size, load_add] at loaded
    obtain ⟨first, later⟩ := append_inj loaded rfl
    have high : memory place = byteOf word.toNat 1 := (List.cons.inj first).1
    have low : memory (place + 1) = byteOf word.toNat 0 :=
      (List.cons.inj (List.cons.inj first).2).1
    have tail := ih (place + 2) later
    rw [length_cons, range_succ_eq_map, flatMap_cons, flatMap_map, flatMap_cons, ← tail]
    simp only [Nat.mul_zero, Nat.add_zero, high, low]
    refine congrArg (callerBytes word ++ ·) ?_
    refine congrArg (List.flatMap · (List.range rest.length)) ?_
    funext i
    have shifted : place + 2 * (i + 1) = place + 2 + 2 * i := by omega
    rw [shifted]

variable (words : List UInt16) (controller : VMEController)

lemma take_server : load (controller.take (crate.dataPacket words)).rbuf 0 6 =
    crate.serverAddr := by
  have taken := load_store_middle controller.rbuf 0 [] crate.serverAddr
    (crate.crateAddr ++ head words ++ words.flatMap wordBytes)
  rw [crate.server] at taken
  simpa only [VMEController.take, dataPacket, nil_append, append_assoc,
    length_nil] using taken

lemma take_crate : load (controller.take (crate.dataPacket words)).rbuf 6 6 =
    crate.crateAddr := by
  have taken := load_store_middle controller.rbuf 0 crate.serverAddr crate.crateAddr
    (head words ++ words.flatMap wordBytes)
  rw [crate.server, crate.crate] at taken
  simpa only [VMEController.take, dataPacket, append_assoc] using taken

lemma take_head : load (controller.take (crate.dataPacket words)).rbuf 12 10 = head words := by
  have taken := load_store_middle controller.rbuf 0 (crate.serverAddr ++ crate.crateAddr)
    (head words) (words.flatMap wordBytes)
  rw [length_append, crate.server, crate.crate] at taken
  exact taken

lemma take_data : load (controller.take (crate.dataPacket words)).rbuf 22 (2 * words.length) =
    words.flatMap wordBytes := by
  have taken := load_store_middle controller.rbuf 0
    (crate.serverAddr ++ crate.crateAddr ++ head words) (words.flatMap wordBytes) []
  rw [append_nil, length_append, length_append, crate.server, crate.crate,
    wordBytes_length] at taken
  exact taken

variable {words controller}

lemma readEth_reply (here : controller.hwDestAddr = crate.crateAddr)
    (counted : words.length < 0x10000) :
    controller.readEth 0 0 [some (crate.dataPacket words)] =
      ⟨(controller.take (crate.dataPacket words)).setLife true, [], some words.length⟩ := by
  have size : 22 ≤ (crate.dataPacket words).length := by
    simp only [dataPacket, length_append, crate.server, crate.crate, head, length_cons]
    omega
  have expected : (controller.take (crate.dataPacket words)).unexpected = false := by
    have address : (controller.take (crate.dataPacket words)).hwDestAddr = crate.crateAddr := here
    rw [VMEController.unexpected, take_server, take_crate, address]
    simp [crate.addressed]
  have kind : (controller.take (crate.dataPacket words)).returnType = 5 :=
    @load_at _ _ 12 (head words) (crate.take_head words controller) 3 (by simp [head])
  have high : (controller.take (crate.dataPacket words)).rbuf 20 = byteOf words.length 1 :=
    @load_at _ _ 12 (head words) (crate.take_head words controller) 8 (by simp [head])
  have low : (controller.take (crate.dataPacket words)).rbuf 21 = byteOf words.length 0 :=
    @load_at _ _ 12 (head words) (crate.take_head words controller) 9 (by simp [head])
  have count : (controller.take (crate.dataPacket words)).rNum = words.length := by
    rw [VMEController.rNum, high, low, count_byteOf counted]
  simp only [VMEController.readEth]
  rw [if_neg (by omega), if_neg (by omega), expected, if_neg (by simp), if_pos kind, count]

lemma swapped_reply : (controller.take (crate.dataPacket words)).swapped words.length =
    words.flatMap callerBytes :=
  swap_words _ words 22 (crate.take_data words controller)

end Crate

end EmuLib.VmeController
