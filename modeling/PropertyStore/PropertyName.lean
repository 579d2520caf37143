import PropertyStore.FormatClass

/-!
# Well-known properties

In a set of a well-known class a property's number, taken with the kind of value it is
stored as, has a name. Two classes name their properties, each in a table by number.
Text is named once, under the code of text in units of one byte; text in units of two
bytes carries the same properties.
-/

namespace PropertyStore

/-- A property that has a name. -/
structure PropertyName where
  /-- The number that keys the property. -/
  entryType : UInt32
  /-- The code of the values that the property is stored as. -/
  code : UInt16
  /-- The symbol of the property. -/
  identifier : String
  /-- The property in words. -/
  description : String
  deriving DecidableEq, Repr

namespace PropertyName

/-- The properties of summary information. -/
def summaryInformation : List PropertyName := [
  ⟨0x0001, 0x0002, "PIDSI_CODEPAGE", "Codepage"⟩,
  ⟨0x0002, 0x001E, "PIDSI_TITLE", "Title"⟩,
  ⟨0x0003, 0x001E, "PIDSI_SUBJECT", "Subject"⟩,
  ⟨0x0004, 0x001E, "PIDSI_AUTHOR", "Author"⟩,
  ⟨0x0005, 0x001E, "PIDSI_KEYWORDS", "Keywords"⟩,
  ⟨0x0006, 0x001E, "PIDSI_COMMENTS", "Comments"⟩,
  ⟨0x0007, 0x001E, "PIDSI_TEMPLATE", "Template"⟩,
  ⟨0x0008, 0x001E, "PIDSI_LASTAUTHOR", "Last saved by"⟩,
  ⟨0x0009, 0x001E, "PIDSI_REVNUMBER", "Revision number"⟩,
  ⟨0x000A, 0x0040, "PIDSI_EDITTIME", "Total editing time"⟩,
  ⟨0x000B, 0x0040, "PIDSI_LASTPRINTED", "Last printed date and time"⟩,
  ⟨0x000C, 0x0040, "PIDSI_CREATE_DTM", "Creation date and time"⟩,
  ⟨0x000D, 0x0040, "PIDSI_LASTSAVE_DTM", "Last saved date and time"⟩,
  ⟨0x000E, 0x0003, "PIDSI_PAGECOUNT", "Number of pages"⟩,
  ⟨0x000F, 0x0003, "PIDSI_WORDCOUNT", "Number of words"⟩,
  ⟨0x0010, 0x0003, "PIDSI_CHARCOUNT", "Number of characters"⟩,
  ⟨0x0011, 0x0047, "PIDSI_THUMBNAIL", "Thumbnail"⟩,
  ⟨0x0012, 0x001E, "PIDSI_APPNAME", "Creating application name"⟩,
  ⟨0x0013, 0x0003, "PIDSI_SECURITY", "Security"⟩]

/-- The properties of document summary information. -/
def documentSummaryInformation : List PropertyName := [
  ⟨0x0001, 0x0002, "PIDDSI_CODEPAGE", "Codepage"⟩,
  ⟨0x0002, 0x001E, "PIDDSI_CATEGORY", "Category"⟩,
  ⟨0x0003, 0x001E, "PIDDSI_PRESFORMAT", "Presentation format"⟩,
  ⟨0x0004, 0x0003, "PIDDSI_BYTECOUNT", "Number of bytes"⟩,
  ⟨0x0005, 0x0003, "PIDDSI_LINECOUNT", "Number of lines"⟩,
  ⟨0x0006, 0x0003, "PIDDSI_PARCOUNT", "Number of paragraphs"⟩,
  ⟨0x0007, 0x0003, "PIDDSI_SLIDECOUNT", "Number of slides"⟩,
  ⟨0x0008, 0x0003, "PIDDSI_NOTECOUNT", "Number of notes"⟩,
  ⟨0x0009, 0x0003, "PIDDSI_HIDDENCOUNT", "Number of hidden slides"⟩,
  ⟨0x000A, 0x0003, "PIDDSI_MMCLIPCOUNT", "Number of multimedia clips"⟩,
  ⟨0x000B, 0x000B, "PIDDSI_SCALE", "Scale crop"⟩,
  ⟨0x000C, 0x100C, "PIDDSI_HEADINGPAIR", "Heading pair"⟩,
  ⟨0x000D, 0x101E, "PIDDSI_DOCPARTS", "Document parts"⟩,
  ⟨0x000E, 0x001E, "PIDDSI_MANAGER", "Manager"⟩,
  ⟨0x000F, 0x001E, "PIDDSI_COMPANY", "Company"⟩,
  ⟨0x0010, 0x000B, "PIDDSI_LINKSDIRTY", "Links dirty"⟩,
  ⟨0x0011, 0x0003, "PIDDSI_CCHWITHSPACES", "Number of characters with white-space"⟩,
  ⟨0x0013, 0x000B, "PIDDSI_SHAREDDOC", "Shared document"⟩,
  ⟨0x0016, 0x000B, "PIDDSI_HYPERLINKSCHANGED", "Hyper links changed"⟩,
  ⟨0x0017, 0x0003, "PIDDSI_VERSION", "Creating application version"⟩,
  ⟨0x0018, 0x0041, "PIDDSI_DIGSIG", "Digital signature"⟩,
  ⟨0x001A, 0x001E, "PIDDSI_CONTENTTYPE", "Content type"⟩,
  ⟨0x001B, 0x001E, "PIDDSI_CONTENTSTATUS", "Content status"⟩,
  ⟨0x001C, 0x001E, "PIDDSI_LANGUAGE", "Language"⟩,
  ⟨0x001D, 0x001E, "PIDDSI_DOCVERSION", "Document version"⟩]

/-- The properties that a class names. -/
def table : FormatClass → List PropertyName
  | .summaryInformation => summaryInformation
  | .documentSummaryInformation => documentSummaryInformation
  | .userDefinedProperties | .storage => []

/-- The code under which the tables list values with this code: text in units of two
bytes is listed as text in units of one, alone and in vectors. -/
def listedCode (code : UInt16) : UInt16 :=
  if code = 0x001F then 0x001E else if code = 0x101F then 0x101E else code

/-- The name of a property in a class, given its number and the code of its value. -/
def find? (formatClass : FormatClass) (entryType : UInt32) (code : UInt16) :
    Option PropertyName :=
  (table formatClass).find? fun p => p.entryType = entryType ∧ p.code = listedCode code

end PropertyName

end PropertyStore
