import Threeboard.Usb.RequestHandler

namespace Threeboard.Usb

def DescriptorType.DEVICE : UInt8 := 0x01
def DescriptorType.CONFIGURATION : UInt8 := 0x02
def DescriptorType.STRING : UInt8 := 0x03
def DescriptorType.INTERFACE : UInt8 := 0x04
def DescriptorType.ENDPOINT : UInt8 := 0x05
def DescriptorType.HID : UInt8 := 0x21
def DescriptorType.HID_REPORT : UInt8 := 0x22

def descriptorId (type index : UInt8) : UInt16 := type.toUInt16 <<< 8 ||| index.toUInt16

def littleEndian (w : UInt16) : List UInt8 := [w.toUInt8, (w >>> 8).toUInt8]

def kVendorId : UInt16 := 0x04D8
def kProductId : UInt16 := 0xEC51
def kSpecificationComplianceVersion : UInt16 := 0x1011
def kNumInterfaces : UInt8 := 1
def kNotLocalized : UInt8 := 0
def kHidClassCode : UInt8 := 3
def kBootInterfaceSubclassCode : UInt8 := 1
def kKeyboardInterfaceProtocol : UInt8 := 1
def kLanguageIdEnglish : UInt16 := 0x0409
def kUsbSpecificationReleaseNumber : UInt16 := 0x0200
def kBaseDeviceClassCode : UInt8 := 0
def kBaseDeviceSubclassCode : UInt8 := 0
def kBaseDeviceProtocol : UInt8 := 0
def kKeyboardEndpointAttributes : UInt8 := 0b00000011
def kKeyboardEndpointMaxPacketSize : UInt8 := 8
def kConfigurationAttributes : UInt8 := 0b10000000
def kConfigurationMaxPower : UInt8 := 50
def kEndpointPipeTypeIn : UInt8 := 0b10000000

def deviceDescriptor : List UInt8 :=
  [18, DescriptorType.DEVICE] ++ littleEndian kUsbSpecificationReleaseNumber ++
    [kBaseDeviceClassCode, kBaseDeviceSubclassCode, kBaseDeviceProtocol, k32BytePacketSize] ++
    littleEndian kVendorId ++ littleEndian kProductId ++ littleEndian 1 ++ [1, 2, 0, 1]

def hidReport : List UInt8 :=
  [0x05, 0x01, 0x09, 0x06, 0xA1, 0x01, 0x05, 0x07, 0x19, 0xE0, 0x29, 0xE7, 0x15, 0x00, 0x25, 0x01,
    0x75, 0x01, 0x95, 0x08, 0x81, 0x02, 0x95, 0x01, 0x75, 0x08, 0x81, 0x01, 0x95, 0x05, 0x75, 0x01,
    0x05, 0x08, 0x19, 0x01, 0x29, 0x05, 0x91, 0x02, 0x95, 0x01, 0x75, 0x03, 0x91, 0x01, 0x95, 0x06,
    0x75, 0x08, 0x15, 0x00, 0x25, 0x65, 0x05, 0x07, 0x19, 0x00, 0x29, 0x65, 0x81, 0x00, 0xC0]

def interfaceDescriptor : List UInt8 :=
  [9, DescriptorType.INTERFACE, kKeyboardInterfaceIndex.toUInt8, 0, 1, kHidClassCode,
    kBootInterfaceSubclassCode, kKeyboardInterfaceProtocol, 0]

def hidDescriptor : List UInt8 :=
  [9, DescriptorType.HID] ++ littleEndian kSpecificationComplianceVersion ++
    [kNotLocalized, 1, DescriptorType.HID_REPORT] ++ littleEndian hidReport.length.toUInt16

def endpointDescriptor : List UInt8 :=
  [7, DescriptorType.ENDPOINT, kKeyboardEndpoint ||| kEndpointPipeTypeIn,
    kKeyboardEndpointAttributes] ++ littleEndian kKeyboardEndpointMaxPacketSize.toUInt16 ++ [1]

def combinedDescriptor : List UInt8 :=
  let rest := interfaceDescriptor ++ hidDescriptor ++ endpointDescriptor
  [9, DescriptorType.CONFIGURATION] ++ littleEndian (9 + rest.length).toUInt16 ++
    [kNumInterfaces, kConfigurationValue, 0, kConfigurationAttributes, kConfigurationMaxPower] ++ rest

def supportedLanguages : List UInt8 := [4, DescriptorType.STRING] ++ littleEndian kLanguageIdEnglish

def unicodeString (bLength : UInt8) (text : String) : List UInt8 :=
  [bLength, DescriptorType.STRING] ++
    (text.toList.map fun c => c.toNat.toUInt16).flatMap littleEndian ++ littleEndian 0

def manufacturer : List UInt8 := unicodeString 30 "threeboard.dev"
def product : List UInt8 := unicodeString 28 "threeboard v1"

def container (id index : UInt16) (bytes : List UInt8) (length : UInt8) : DescriptorContainer where
  id := id
  index := index
  data i := bytes.getD i 0
  length := length

def descriptorList : List DescriptorContainer :=
  [container (descriptorId DescriptorType.DEVICE 0) 0 deviceDescriptor deviceDescriptor.length.toUInt8,
    container (descriptorId DescriptorType.CONFIGURATION 0) 0 combinedDescriptor
      combinedDescriptor.length.toUInt8,
    container (descriptorId DescriptorType.HID_REPORT 0) kKeyboardInterfaceIndex hidReport
      hidReport.length.toUInt8,
    container (descriptorId DescriptorType.HID 0) kKeyboardInterfaceIndex hidDescriptor
      (hidDescriptor.headD 0),
    container (descriptorId DescriptorType.STRING 0) 0 supportedLanguages
      (supportedLanguages.headD 0),
    container (descriptorId DescriptorType.STRING 1) kLanguageIdEnglish manufacturer
      (manufacturer.headD 0),
    container (descriptorId DescriptorType.STRING 2) kLanguageIdEnglish product (product.headD 0)]

def descriptorsIn : ℕ → List UInt8 → Option (List (List UInt8))
  | _, [] => some []
  | 0, _ => none
  | rounds + 1, bytes =>
    let length := (bytes.headD 0).toNat
    if length < 2 ∨ bytes.length < length then none
    else (descriptorsIn rounds (bytes.drop length)).map (bytes.take length :: ·)

def DescriptorContainer.all (container : DescriptorContainer) : List UInt8 :=
  (List.range container.length.toNat).map container.data

theorem descriptorList_ids_nodup : (descriptorList.map DescriptorContainer.id).Nodup := by
  decide +kernel

-- Each container holds whole descriptors, the first of the type that it is asked for by. The report
-- is no descriptor of the host's.
theorem descriptorList_whole : ∀ container ∈ descriptorList,
    container.id ≠ descriptorId DescriptorType.HID_REPORT 0 →
      (descriptorsIn 4 container.all).map (fun descriptors => (descriptors.headD []).getD 1 0) =
        some (container.id >>> 8).toUInt8 := by
  decide +kernel

end Threeboard.Usb
