import SqlFixtures.Archive.Inflate
import SqlFixtures.Archive.Lzma.Stream
import SqlFixtures.Text.Undecodable

/-!
# Faults of archives

Why a file is no archive, or an entry of an archive cannot be read.
-/

namespace SqlFixtures.Archive

def CompressionFault.message (fault : CompressionFault) : String :=
  "Error -3 while decompressing data: " ++ match fault with
  | blockKind => "invalid block type"
  | plainLength => "invalid stored block lengths"
  | tooManyLengths => "too many length or distance symbols"
  | lengthCode => "invalid code lengths set"
  | repeatedLength => "invalid bit length repeat"
  | noBlockEnd => "invalid code -- missing end-of-block"
  | symbolCode => "invalid literal/lengths set"
  | distanceCode => "invalid distances set"
  | symbol => "invalid literal/length code"
  | distance => "invalid distance code"
  | tooFarBack => "invalid distance too far back"

def Lzma.Fault.message : Lzma.Fault → String
  | properties => "Invalid or unsupported options"
  | data => "Corrupt input data"

inductive LongNumber where
  | size
  | packedSize
  | position
  deriving Repr, DecidableEq

def LongNumber.name : LongNumber → String
  | size => "File size"
  | packedSize => "Compress size"
  | position => "Header offset"

inductive Unsupported where
  /-- The archive asks for a newer version of the format, given in tenths. -/
  | version (tenths : Nat)
  | method
  | patch
  | strongEncryption
  deriving Repr, DecidableEq

def Unsupported.message : Unsupported → String
  | version tenths => s!"zip file version {tenths / 10}.{tenths % 10}"
  | method => "That compression method is not supported"
  | patch => "compressed patched data (flag bit 5)"
  | strongEncryption => "strong encryption (flag bit 6)"

inductive Fault where
  | notArchive
  | severalDisks
  | misplacedDirectory
  | shortDirectory
  | badDirectoryMark
  /-- A part of an extra field is longer than the rest of the field. -/
  | longExtra (kind size : Nat)
  | missingNumber (number : LongNumber)
  | undecodableName (fault : Text.Undecodable)
  | unsupported (feature : Unsupported)
  /-- No file can have bytes where the header of the entry is. -/
  | unreachable
  /-- The place of the header is no number that a file can be asked for. -/
  | immense
  | shortHeader
  | badHeaderMark
  /-- The directory and the header of an entry give it different names. -/
  | otherName (inDirectory : String) (inHeader : List UInt8)
  /-- The entry reaches into what follows it. -/
  | overlapping (entry : String)
  | encrypted (entry : String)
  | cutShort
  | compression (fault : CompressionFault)
  | blocks
  | range (fault : Lzma.Fault)
  | damagedEntry (entry : String)
  deriving DecidableEq

def fourDigits (n : Nat) : String := String.ofList (Text.hexDigits 4 n)

def Fault.message : Fault → String
  | notArchive => "File is not a zip file"
  | severalDisks => "zipfiles that span multiple disks are not supported"
  | misplacedDirectory => "Bad offset for central directory"
  | shortDirectory => "Truncated central directory"
  | badDirectoryMark => "Bad magic number for central directory"
  | longExtra kind size => "Corrupt extra field " ++ fourDigits kind ++ s!" (size={size})"
  | missingNumber number => "Corrupt zip64 extra field. " ++ number.name ++ " not found."
  | undecodableName fault => fault.message
  | unsupported feature => feature.message
  | unreachable => "[Errno 22] Invalid argument"
  | immense => "cannot fit 'int' into an offset-sized integer"
  | shortHeader => "Truncated file header"
  | badHeaderMark => "Bad magic number for file header"
  | otherName inDirectory inHeader =>
    "File name in directory " ++ Text.quote inDirectory ++ " and header " ++
      Text.quoteBytes inHeader ++ " differ."
  | overlapping entry => "Overlapped entries: " ++ Text.quote entry ++ " (possible zip bomb)"
  | encrypted entry =>
    "File " ++ Text.quote entry ++ " is encrypted, password required for extraction"
  | cutShort => ""
  | compression fault => fault.message
  | blocks => "Invalid data stream"
  | range fault => fault.message
  | damagedEntry entry => "Bad CRC-32 for file " ++ Text.quote entry

end SqlFixtures.Archive
