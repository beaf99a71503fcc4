import MethodCodec.Protocol.Basic
import MethodCodec.Source.Settings
import MethodCodec.Source.Block

/-!
What all class modules of the generated source share: the trait of methods, the
frame type, and the helpers that read and write bytes.
-/

namespace MethodCodec.Source

/-! ## Header -/

/-- The name and version of a protocol, or what the document has of them. -/
def protocolLabel? (info : ProtocolInfo) : Option String :=
  match info.name, info.version with
  | some name, some version => some (name ++ " " ++ versionText version)
  | some name, none => some name
  | none, some version => some (versionText version)
  | none, none => none

/-- The line that names the protocol; an empty label gives none. -/
def labelLines (info : ProtocolInfo) : List String :=
  match protocolLabel? info with
  | some label => if label.isEmpty then [] else ["// Protocol: " ++ label]
  | none => []

/-- The comment at the top of the source, with the blank line after it. -/
def headerLines (info : ProtocolInfo) (settings : SourceSettings) : List String :=
  if settings.header then
    "// This file is autogenerated by amqpgen. Do not edit." :: labelLines info ++ [""]
  else
    []

/-! ## Trait and frame -/

/-- The trait that all methods implement. -/
def traitLines : List String :=
  "/// A protocol method that can be decoded from and encoded to a method frame payload."
    :: block "pub trait Method: Sized"
      ["/// Decode `method_frame`, or `None` if it carries another method or its",
        "/// payload is truncated.",
        "fn decode(method_frame: MethodFrame) -> Option<Self>;",
        "/// Encode the method's arguments, excluding the frame header.",
        "fn encode(&self) -> Vec<u8>;",
        "fn name(&self) -> &'static str;",
        "fn id(&self) -> u16;",
        "fn class_id(&self) -> u16;"]

/-- The type of frames, which knows the name of its method. -/
def frameLines : List String :=
  ["/// The class id, method id and raw argument payload of a method frame.",
    "#[derive(Debug, Clone, PartialEq, Eq)]"]
    ++ block "pub struct MethodFrame"
      ["pub class_id: u16,", "pub method_id: u16,", "pub arguments: Vec<u8>,"]
    ++ [""]
    ++ block "impl MethodFrame"
      ("/// The `\"class.method\"` name of this frame, or `\"UNKNOWN\"`."
        :: block "pub fn method_name(&self) -> &'static str"
          ["method_name(self.class_id, self.method_id)"])

/-! ## Byte helpers -/

/-- The helper that reads a big-endian number of a type. -/
def readNumberLines (type width : String) : List String :=
  block ("pub fn read_" ++ type ++ "(reader: &mut &[u8]) -> Option<" ++ type ++ ">")
    ["let bytes: [u8; " ++ width ++ "] = take(reader, " ++ width ++ ")?.try_into().ok()?;",
      "Some(" ++ type ++ "::from_be_bytes(bytes))"]

/-- The helper that reads text behind its length. -/
def readTextLines (kind length : String) : List String :=
  block ("pub fn read_" ++ kind ++ "_str(reader: &mut &[u8]) -> Option<String>")
    ["let len = " ++ length ++ ";",
      "take(reader, len).map(|bytes| String::from_utf8_lossy(bytes).into_owned())"]

/-- The helper that writes text behind its length. -/
def writeTextLines (kind limit length : String) : List String :=
  block ("pub fn write_" ++ kind ++ "_str(buf: &mut Vec<u8>, value: &str)")
    ["let bytes = &value.as_bytes()[..value.len().min(" ++ limit ++ "::MAX as usize)];",
      length,
      "buf.extend_from_slice(bytes);"]

/-- The helper that takes bytes off the front, on which all readers rest. -/
def takeLines : List String :=
  block "fn take<'a>(reader: &mut &'a [u8], len: usize) -> Option<&'a [u8]>"
    (block "if reader.len() < len" ["return None;"]
      ++ ["let (head, rest) = reader.split_at(len);", "*reader = rest;", "Some(head)"])

/-- The helper that reads one byte. -/
def readByteLines : List String :=
  block "pub fn read_u8(reader: &mut &[u8]) -> Option<u8>"
    ["take(reader, 1).map(|bytes| bytes[0])"]

/-- The helper that turns a byte into flags. -/
def unpackLines : List String :=
  "/// Unpack one byte into eight flags, least-significant bit first."
    :: block "pub fn unpack_bits(byte: u8) -> [bool; 8]"
      ["std::array::from_fn(|i| byte & (1 << i) != 0)"]

/-- The helper that turns flags into bytes. -/
def packLines : List String :=
  "/// Pack flags into `ceil(n / 8)` bytes, least-significant bit first."
    :: block "pub fn pack_bits(bits: &[bool]) -> Vec<u8>"
      ("bits.chunks(8)"
        :: (blockUntil "\x7d)" ".map(|chunk|"
              ["chunk",
                "    .iter()",
                "    .enumerate()",
                "    .fold(0u8, |byte, (i, &set)| byte | (u8::from(set) << i))"]
            ++ [".collect()"]).map indent)

/-- The module of the byte helpers. -/
def helperLines : List String :=
  "/// Byte-level helpers shared by the method codecs."
    :: block "pub mod wire"
      (takeLines ++ [""]
        ++ readByteLines ++ [""]
        ++ readNumberLines "u16" "2" ++ [""]
        ++ readNumberLines "u32" "4" ++ [""]
        ++ readNumberLines "u64" "8" ++ [""]
        ++ readTextLines "short" "usize::from(read_u8(reader)?)" ++ [""]
        ++ readTextLines "long" "usize::try_from(read_u32(reader)?).ok()?" ++ [""]
        ++ "/// Writes at most 255 bytes of `value`."
          :: writeTextLines "short" "u8" "buf.push(bytes.len() as u8);" ++ [""]
        ++ writeTextLines "long" "u32"
          "buf.extend_from_slice(&(bytes.len() as u32).to_be_bytes());" ++ [""]
        ++ unpackLines ++ [""]
        ++ packLines)

/-- The part of the source that is the same for every protocol. -/
def sharedLines : List String :=
  traitLines ++ [""] ++ frameLines ++ [""] ++ helperLines

/-- The header as text, with a line break after each line. -/
def headerText (info : ProtocolInfo) (settings : SourceSettings) : String :=
  endLines (headerLines info settings)

/-- The text of the header and the shared part, without a final line break. -/
def preambleText (info : ProtocolInfo) (settings : SourceSettings) : String :=
  joinLines (headerLines info settings ++ sharedLines)

end MethodCodec.Source
