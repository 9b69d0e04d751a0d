import KasGraph.Detectors

set_option autoImplicit false

/-! The captured fingerprints of the registered patterns. -/

namespace KasGraph

/-- The low bytes of a number, the highest first. -/
def bigEndian : (width n : Nat) → List UInt8
  | 0, _ => []
  | width + 1, n => UInt8.ofNat (n >>> (8 * width)) :: bigEndian width n

/-- `hex::decode` of a captured text, given in words of 32 bytes of which the last may be
shorter. -/
def hexWords : (len : Nat) → List Nat → List UInt8
  | _, [] => []
  | len, word :: rest => bigEndian (min len 32) word ++ hexWords (len - 32) rest

def opensilverOwnableFingerprint : Fingerprint where
  bytes := hexWords 420 [
    0x6b20010101010101010101010101010101010101010101010101010101010101,
    0x0101010020020202020202020202020202020202020202020202020202020202,
    0x02020202026c76009c63755279567956797653798769567978ac697853798791,
    0x69b9cb519c69527901207c7e5151cd01017c7e537901207c7e7e7eb976c902a4,
    0x0194765193bc7c7eb976c97602a401940145937cbc7eaa02000001aa7e01207e,
    0x7c7e01877eb900ccc38769007a75007a75007a75757575757575516776519c63,
    0x757655795379697652798769557978ac69b9cb519c697801207c7e0051cd0101,
    0x7c7e537901207c7e7e7eb976c902a40194765193bc7c7eb976c97602a4019401,
    0x45937cbc7eaa02000001aa7e01207e7c7e01877eb900ccc38769007a75007a75,
    0x7575757575516776529c637552795279527957797654798769577978ac695279,
    0x69b9cb519c69537901207c7e0051cd01017c7e537901207c7e7e7eb976c902a4,
    0x0194765193bc7c7eb976c97602a401940145937cbc7eaa02000001aa7e01207e,
    0x7c7e01877eb900ccc38769007a75007a75007a75007a75757575757551677500,
    0x69686868]
  maskedWindows := [
    { field := "owner_pubkey", offset := 2, len := 32 },
    { field := "has_pending", offset := 35, len := 1 },
    { field := "pending_owner_pubkey", offset := 37, len := 32 }]

def opensilverMultisigFingerprint : Fingerprint where
  bytes := hexWords 876 [
    0x6b08020000000000000020010101010101010101010101010101010101010101,
    0x0101010101010101010101200202020202020202020202020202020202020202,
    0x0202020202020202020202022003030303030303030303030303030303030303,
    0x030303030303030303030303036c76009c637553795379537953795379537953,
    0x795379537951a269537953a16952795279879169527978879169787887916901,
    0x117960795f795279527987915379527987919a5279527987919a695a795a795a,
    0x795a7901187901177901167900537976587987785879879b785779879b011d79,
    0x5679ac9a637851937b757c68537976597987785979879b785879879b011c7956,
    0x79ac9a6352795193537a757b7b685379765a7987785a79879b785979879b011b,
    0x795679ac9a6353795193547a757c6b7c6b7c6b6c6c6c68537976011779a26900,
    0x7a75007a75007a75007a75007a75007a75007a75007a75007a75007a75007a75,
    0x007a75007a75007a75007a75007a75007a75007a75007a75007a75007a75007a,
    0x75007a7575757575757575757575516776519c63755379537953795379011179,
    0x01117901117901117901117960795f795a795a795a795a79537951a269537953,
    0xa1695279527987916952797887916978788791695a795a795a795a79537951a2,
    0x69537953a1695279527987916952797887916978788791695a795a795a795279,
    0x527987915379527987919a5279527987919a6901157901157901157901157901,
    0x117901117901117900537976587987785879879b785779879b0128795679ac9a,
    0x637851937b757c68537976597987785979879b785879879b0127795679ac9a63,
    0x52795193537a757b7b685379765a7987785a79879b785979879b0126795679ac,
    0x9a6353795193547a757c6b7c6b7c6b6c6c6c68537976012279a269b9cb519c69,
    0x011d7958cd01087c7e011d7901207c7e011d7901207c7e011d7901207c7e7e7e,
    0x7eb976c9026c0394765193bc7c7eb976c976026c0394016d937cbc7eaa020000,
    0x01aa7e01207e7c7e01877eb900ccc38769007a75007a75007a75007a75007a75,
    0x007a75007a75007a75007a75007a75007a75007a75007a75007a75007a75007a,
    0x75007a75007a75007a75007a75007a75007a75007a75007a75007a75007a7500,
    0x7a75007a75007a75007a75007a75007a75007a75007a75757575757575757575,
    0x757575757551677500696868]
  maskedWindows := [
    { field := "threshold", offset := 2, len := 8 },
    { field := "signer_pubkey_1", offset := 11, len := 32 },
    { field := "signer_pubkey_2", offset := 44, len := 32 },
    { field := "signer_pubkey_3", offset := 77, len := 32 }]

def opensilverTimelockFingerprint : Fingerprint where
  bytes := hexWords 368 [
    0x6b20010101010101010101010101010101010101010101010101010101010101,
    0x0101200202020202020202020202020202020202020202020202020202020202,
    0x02020208e80300000000000001006c76009c63755279527976b0577976537987,
    0x69577978ac6900c2b9be02e803949c6900c35379030000207c7e01ac7e876900,
    0x7a75007a75007a75757575757575516776519c63755379527952797669b55279,
    0x9f6958797654798769587978ac6900c2b9be02e803949c6900c3547903000020,
    0x7c7e01ac7e8769007a75007a75007a75007a75757575757575516776529c6375,
    0x53795379537953795a795a7976567987695a7978ac69785479a269b9cb519c69,
    0x557901207c7e557901207c7e537958cd01087c7e557951cd01017c7e7e7e7eb9,
    0x76c902700194765193bc7c7eb976c97602700194014e937cbc7eaa02000001aa,
    0x7e01207e7c7e01877eb900ccc38769007a75007a75007a75007a75007a75007a,
    0x75757575757575755167750069686868]
  maskedWindows := [
    { field := "owner_pubkey", offset := 2, len := 32 },
    { field := "beneficiary_pubkey", offset := 35, len := 32 },
    { field := "unlock_time", offset := 68, len := 8 },
    { field := "soft_cancel", offset := 77, len := 1 }]

def opensilverVaultFingerprint : Fingerprint where
  bytes := hexWords 2190 [
    0x6b20010101010101010101010101010101010101010101010101010101010101,
    0x0101010020020202020202020202020202020202020202020202020202020202,
    0x0202020202080200000000000000200303030303030303030303030303030303,
    0x0303030303030303030303030303032004040404040404040404040404040404,
    0x0404040404040404040404040404040420050505050505050505050505050505,
    0x0505050505050505050505050505050505086400000000000000200606060606,
    0x0606060606060606060606060606060606060606060606060606066c76009c63,
    0x7555795579557955795579557978b05579557955795579537951a269537953a1,
    0x69527952798791695279788791697878879169011a7901197901187952795279,
    0x87915379527987919a5279527987919a690115790115790115795f795f795f79,
    0x5f795f795f79012679012579012479005379765a7987785a79879b785979879b,
    0x012b795679ac9a637851937b757c685379765b7987785b79879b785a79879b01,
    0x2a795679ac9a6352795193537a757b7b685379765c7987785c79879b785b7987,
    0x9b0129795679ac9a6353795193547a757c6b7c6b7c6b6c6c6c68537976011e79,
    0xa2690128790119798769012779012979ac6900c2b9be02e803949c6900c30119,
    0x79030000207c7e01ac7e8769007a75007a75007a75007a75007a75007a75007a,
    0x75007a75007a75007a75007a75007a75007a75007a75007a75007a75007a7500,
    0x7a75007a75007a75007a75007a75007a75007a75007a75007a75007a75007a75,
    0x007a75007a757575757575757575757575757575757575516776519c63755879,
    0x5879587958795879587958795879587901187901187901177901167959795979,
    0x59795979537951a269537953a169527952798791695279788791697878879169,
    0x5679567956795279527987915379527987919a5279527987919a690113790113,
    0x7901137901137901137901137901137901137901137901127901127901127900,
    0x5379765a7987785a79879b785979879b0130795679ac9a637851937b757c6853,
    0x79765b7987785b79879b785a79879b012f795679ac9a6352795193537a757b7b,
    0x685379765c7987785c79879b785b79879b012e795679ac9a6353795193547a75,
    0x7c6b7c6b7c6b6c6c6c68537976012279a269011b79011e79a269b9cb519c69b9,
    0x00ccc2b9be02e803949c69b9cb519c6901247901207c7e01247951cd01017c7e,
    0x01247901207c7e01247958cd01087c7e01247901207c7e01247901207c7e0124,
    0x7901207c7e01227958cd01087c7e01247901207c7e7e7e7e7e7e7e7e7eb976c9,
    0x028e0894765193bc7c7eb976c976028e089402db00937cbc7eaa02000001aa7e,
    0x01207e7c7e01877eb900ccc38769007a75007a75007a75007a75007a75007a75,
    0x007a75007a75007a75007a75007a75007a75007a75007a75007a75007a75007a,
    0x75007a75007a75007a75007a75007a75007a75007a75007a75007a75007a7500,
    0x7a75007a75007a75007a75007a75007a75007a75007a75007a75007a75757575,
    0x75757575757575757575757575516776529c6375587958795879587958795879,
    0x587958795879011d79011d79011d79011d79011b79011a790119790120797601,
    0x1179876901207978ac695d795d795d795d79537951a269537953a16952795279,
    0x87916952797887916978788791695b795b795b795b79537951a269537953a169,
    0x5279527987916952797887916978788791695b795b795b795279527987915379,
    0x527987919a5279527987919a69011b79011b79011b79011b79011b79011b7901,
    0x1b79011b79011b79011779011779011779005379765a7987785a79879b785979,
    0x879b0138795679ac9a637851937b757c685379765b7987785b79879b785a7987,
    0x9b0137795679ac9a6352795193537a757b7b685379765c7987785c79879b785b,
    0x79879b0136795679ac9a6353795193547a757c6b7c6b7c6b6c6c6c6853797601,
    0x2a79a269b9cb519c69b900ccc2b9be02e803949c69b9cb519c69012c7901207c,
    0x7e012c7951cd01017c7e012c7901207c7e01267958cd01087c7e01267901207c,
    0x7e01267901207c7e01267901207c7e012c7958cd01087c7e012c7901207c7e7e,
    0x7e7e7e7e7e7e7eb976c9028e0894765193bc7c7eb976c976028e089402db0093,
    0x7cbc7eaa02000001aa7e01207e7c7e01877eb900ccc38769007a75007a75007a,
    0x75007a75007a75007a75007a75007a75007a75007a75007a75007a75007a7500,
    0x7a75007a75007a75007a75007a75007a75007a75007a75007a75007a75007a75,
    0x007a75007a75007a75007a75007a75007a75007a75007a75007a75007a75007a,
    0x75007a75007a75007a75007a75007a75007a75007a75007a75007a75007a7575,
    0x7575757575757575757575757575757575757575516776539c63755879567956,
    0x795679567956795679011279011279765979876901127978ac69785979879169,
    0xb9cb519c69b900ccc2b9be02e803949c69b9cb519c69587901207c7e5151cd01,
    0x017c7e537901207c7e5a7958cd01087c7e5a7901207c7e5a7901207c7e5a7901,
    0x207c7e5a7958cd01087c7e5a7901207c7e7e7e7e7e7e7e7e7eb976c9028e0894,
    0x765193bc7c7eb976c976028e089402db00937cbc7eaa02000001aa7e01207e7c,
    0x7e01877eb900ccc38769007a75007a75007a75007a75007a75007a75007a7500,
    0x7a75007a75757575757575757575757575516776549c63755679567956795679,
    0x5679567956790111795f7969765879876901117978ac69b9cb519c69b900ccc2,
    0xb9be02e803949c69b9cb519c69577901207c7e0051cd01017c7e597901207c7e,
    0x597958cd01087c7e597901207c7e597901207c7e597901207c7e597958cd0108,
    0x7c7e597901207c7e7e7e7e7e7e7e7e7eb976c9028e0894765193bc7c7eb976c9,
    0x76028e089402db00937cbc7eaa02000001aa7e01207e7c7e01877eb900ccc387,
    0x69007a75007a75007a75007a75007a75007a75007a75007a7575757575757575,
    0x7575757551677500696868686868]
  maskedWindows := [
    { field := "owner_pubkey", offset := 2, len := 32 },
    { field := "has_pending", offset := 35, len := 1 },
    { field := "pending_owner_pubkey", offset := 37, len := 32 },
    { field := "threshold", offset := 70, len := 8 },
    { field := "signer_pubkey_1", offset := 79, len := 32 },
    { field := "signer_pubkey_2", offset := 112, len := 32 },
    { field := "signer_pubkey_3", offset := 145, len := 32 },
    { field := "unlock_time", offset := 178, len := 8 },
    { field := "beneficiary_pubkey", offset := 187, len := 32 }]

def opensilverEscrowBilateralFingerprint : Fingerprint where
  bytes := hexWords 362 [
    0x6b20010101010101010101010101010101010101010101010101010101010101,
    0x0101200202020202020202020202020202020202020202020202020202020202,
    0x0202022003030303030303030303030303030303030303030303030303030303,
    0x030303030804000000000000006c76009c637553795379537953795b7976aa53,
    0x7987695b7978ac695a7976557987695a7978ac6900c2b9be02e803949c6900c3,
    0x5579030000207c7e01ac7e8769007a75007a75007a75007a75007a75007a7575,
    0x75757575757575516776519c637553795379537953795b7976aa537987695b79,
    0x78ac695a7976567987695a7978ac6900c2b9be02e803949c6900c35679030000,
    0x207c7e01ac7e8769007a75007a75007a75007a75007a75007a75757575757575,
    0x7575516776529c637553797876b057797653798769577978ac6900c2b9be02e8,
    0x03949c6900c35379030000207c7e01ac7e8769007a75007a75007a7575757575,
    0x75755167750069686868]
  maskedWindows := [
    { field := "buyer_pubkey", offset := 2, len := 32 },
    { field := "seller_pubkey", offset := 35, len := 32 },
    { field := "arbiter_hash", offset := 68, len := 32 },
    { field := "timeout", offset := 101, len := 8 }]

def opensilverEscrowMilestoneFingerprint : Fingerprint where
  bytes := hexWords 732 [
    0x6b20010101010101010101010101010101010101010101010101010101010101,
    0x0101200202020202020202020202020202020202020202020202020202020202,
    0x0202022003030303030303030303030303030303030303030303030303030303,
    0x030303030804000000000000000805000000000000000806000000000000006c,
    0x76009c6375557955795579557955795579527952797851a2697600a2697878a2,
    0x6901117976aa5779876901117978ac6960797659798769607978ac6955795779,
    0x9f69b9cb519c69b900ccc2b9be02e803949c69b9cb519c69597901207c7e5979,
    0x01207c7e597901207c7e597958cd01087c7e5979519358cd01087c7e597958cd,
    0x01087c7e7e7e7e7e7eb976c902dc0294765193bc7c7eb976c97602dc0294017f,
    0x937cbc7eaa02000001aa7e01207e7c7e01877eb900ccc38769007a75007a7500,
    0x7a75007a75007a75007a75007a75007a75007a75007a75757575757575757575,
    0x75516776519c6375557955795579557955795579527952797851a2697600a269,
    0x7878a26901117976aa5779876901117978ac6960797659798769607978ac6955,
    0x7957799c6900c2b9be02e803949c6900c35979030000207c7e01ac7e8769007a,
    0x75007a75007a75007a75007a75007a75007a75007a75007a75007a7575757575,
    0x757575757575516776529c6375557955795579557955795579527952797851a2,
    0x697600a2697878a26901117976aa5779876901117978ac696079765a79876960,
    0x7978ac6900c2b9be02e803949c6900c35a79030000207c7e01ac7e8769007a75,
    0x007a75007a75007a75007a75007a75007a75007a75007a75007a757575757575,
    0x7575757575516776539c6375557955795579557955795579527952797851a269,
    0x7600a2697878a2695279b05f7976597987695f7978ac6900c2b9be02e803949c,
    0x6900c35979030000207c7e01ac7e8769007a75007a75007a75007a75007a7500,
    0x7a75007a75007a75007a757575757575757575516775006968686868]
  maskedWindows := [
    { field := "buyer_pubkey", offset := 2, len := 32 },
    { field := "seller_pubkey", offset := 35, len := 32 },
    { field := "arbiter_hash", offset := 68, len := 32 },
    { field := "total_milestones", offset := 101, len := 8 },
    { field := "completed_milestones", offset := 110, len := 8 },
    { field := "timeout", offset := 119, len := 8 }]

def opensilverStreamingPaymentFingerprint : Fingerprint where
  bytes := hexWords 800 [
    0x6b20010101010101010101010101010101010101010101010101010101010101,
    0x0101200202020202020202020202020202020202020202020202020202020202,
    0x0202020803000000000000000804000000000000000805000000000000000806,
    0x000000000000000807000000000000006c76009c6375b9cb5779577957795779,
    0x5779577957790115790115790115790115790115790115790115795a795a795d,
    0x7900a0697800a0697600a2697878a2695a7900a2690120797660798769012079,
    0x78ac695a79b05c7900a0695979827c7501209651a1695979827c75012096519c,
    0x635c795f79a06900c25f799c6900c36079030000207c7e01ac7e876959790001,
    0x2095760120937f0111798769587900012095760120937f607987695779005895,
    0x7658937f5f799c6956790058957658937f5e799c6955790058957658937f5d79,
    0x6079949c6954790058957658937f5c799c6953790058957658937f5b795d7993,
    0x9c69675c795f79a16900c25d799c6900c36079030000207c7e01ac7e87696859,
    0x7901127951a16901127978827c750120969c6900011379009451a16976011479,
    0x9f6376527978012095760120937f01207c7e5c795279012095760120937f0120,
    0x7c7e5c79537958957658937f58cd01087c7e5c79547958957658937f58cd0108,
    0x7c7e5c79557958957658937f58cd01087c7e5c79567958957658937f58cd0108,
    0x7c7e5c79577958957658937f58cd01087c7e7e7e7e7e7e7eb976c90220039476,
    0x5193bc7c7eb976c976022003940170937cbc7eaa02000001aa7e01207e7c7e01,
    0x877eb95279ccc387697651937b757768007a75007a75007a75007a75007a7500,
    0x7a75007a75007a75007a75007a75007a75007a75007a75007a75007a75007a75,
    0x007a75007a75007a75007a757575757575757575757575757575757551677651,
    0x9c6375567956795679567956795679567953795379567900a0697800a0697600,
    0xa2697878a269537900a269011179765a79876901117978ac6900c2b9be02e803,
    0x949c6900c35a79030000207c7e01ac7e8769007a75007a75007a75007a75007a,
    0x75007a75007a75007a75007a75007a7575757575757575757551677500696868]
  maskedWindows := [
    { field := "sender_pubkey", offset := 2, len := 32 },
    { field := "recipient_pubkey", offset := 35, len := 32 },
    { field := "rate_per_claim", offset := 68, len := 8 },
    { field := "total_allowance", offset := 77, len := 8 },
    { field := "remaining_allowance", offset := 86, len := 8 },
    { field := "period", offset := 95, len := 8 },
    { field := "next_release_time", offset := 104, len := 8 }]

def opensilverVestingFingerprint : Fingerprint where
  bytes := hexWords 873 [
    0x6b20010101010101010101010101010101010101010101010101010101010101,
    0x0101200202020202020202020202020202020202020202020202020202020202,
    0x0202020803000000000000000804000000000000000805000000000000000806,
    0x0000000000000008070000000000000001006c76009c6375b9cb587958795879,
    0x5879587958795879587901187901187901187901187901187901187901187901,
    0x18795d795d797800a0697600a2697878a2695b7900a0695c7900a26901247976,
    0x011379876901247978ac695e79b05f790111799f695a79827c7501209651a169,
    0x5a79827c75012096519c6360796079945d79a06900c25d799c6900c301137903,
    0x0000207c7e01ac7e87695a7900012095760120937f0113798769597900012095,
    0x760120937f011279876958790058957658937f0111799c695779005895765893,
    0x7f60795e79939c6956790058957658937f5f795f79939c695579005895765893,
    0x7f5e799c6954790058957658937f5d799c6953790051957651937f5c7991917c,
    0x91918769676079607994765e79a16900c2789c6900c3011479030000207c7e01,
    0xac7e876975685a7901147951a16901147978827c750120969c69000115790094,
    0x51a169760116799f6376527978012095760120937f01207c7e5d795279012095,
    0x760120937f01207c7e5d79537958957658937f58cd01087c7e5d795479589576,
    0x58937f58cd01087c7e5d79557958957658937f58cd01087c7e5d795679589576,
    0x58937f58cd01087c7e5d79577958957658937f58cd01087c7e5d795879519576,
    0x51937f51cd01017c7e7e7e7e7e7e7e7eb976c902690394765193bc7c7eb976c9,
    0x76026903940172937cbc7eaa02000001aa7e01207e7c7e01877eb95279ccc387,
    0x697651937b757768007a75007a75007a75007a75007a75007a75007a75007a75,
    0x007a75007a75007a75007a75007a75007a75007a75007a75007a75007a75007a,
    0x75007a75007a75007a7575757575757575757575757575757575757551677651,
    0x9c637557795779577957795779577957795779557955797800a0697600a26978,
    0x78a269537900a069547900a269527969011379765a79876901137978ac6900c2,
    0xb9be02e803949c6900c35a79030000207c7e01ac7e8769007a75007a75007a75,
    0x007a75007a75007a75007a75007a75007a75007a75007a757575757575757575,
    0x757551677500696868]
  maskedWindows := [
    { field := "beneficiary_pubkey", offset := 2, len := 32 },
    { field := "admin_pubkey", offset := 35, len := 32 },
    { field := "total_allocation", offset := 68, len := 8 },
    { field := "claimed_amount", offset := 77, len := 8 },
    { field := "cliff_time", offset := 86, len := 8 },
    { field := "period", offset := 95, len := 8 },
    { field := "release_per_period", offset := 104, len := 8 },
    { field := "revocable", offset := 113, len := 1 }]

def opensilverDeadMansSwitchFingerprint : Fingerprint where
  bytes := hexWords 454 [
    0x6b20010101010101010101010101010101010101010101010101010101010101,
    0x0101200202020202020202020202020202020202020202020202020202020202,
    0x0202020803000000000000000804000000000000006c76009c63755379537953,
    0x7953797800a0697600a26978b159797654798769597978ac69007a75007a7500,
    0x7a75007a75007a75757575757575516776519c637553795379537953795a7952,
    0x7900a0697800a2695a7976567987695a7978ac697800a269b9cb519c69557901,
    0x207c7e557901207c7e557958cd01087c7e547958cd01087c7e7e7e7eb976c902,
    0xc60194765193bc7c7eb976c97602c601940155937cbc7eaa02000001aa7e0120,
    0x7e7c7e01877eb900ccc38769007a75007a75007a75007a75007a75007a757575,
    0x7575757575516776529c637553795379537953795a79527900a0697800a2695a,
    0x7976567987695a7978ac69785579879169b9cb519c69557901207c7e52790120,
    0x7c7e557958cd01087c7e557958cd01087c7e7e7e7eb976c902c60194765193bc,
    0x7c7eb976c97602c601940155937cbc7eaa02000001aa7e01207e7c7e01877eb9,
    0x00ccc38769007a75007a75007a75007a75007a75007a75757575757575755167,
    0x750069686868]
  maskedWindows := [
    { field := "owner_pubkey", offset := 2, len := 32 },
    { field := "fallback_pubkey", offset := 35, len := 32 },
    { field := "timeout_age", offset := 68, len := 8 },
    { field := "last_ping_age", offset := 77, len := 8 }]

def opensilverSocialRecoveryFingerprint : Fingerprint where
  bytes := hexWords 1260 [
    0x6b20010101010101010101010101010101010101010101010101010101010101,
    0x0101010020030303030303030303030303030303030303030303030303030303,
    0x0303030303080400000000000000200505050505050505050505050505050505,
    0x0505050505050505050505050505052006060606060606060606060606060606,
    0x0606060606060606060606060606060620070707070707070707070707070707,
    0x0707070707070707070707070707070707080800000000000000080900000000,
    0x0000006c76009c63755879587958795879587958795879587958790119790119,
    0x790119790118790117795a795a795a795a79537951a269537953a16952795279,
    0x8791695279788791697878879169597900a26958790112798791695679567956,
    0x795279527987915379527987919a5279527987919a6901147901147901147901,
    0x1479011479011479011479011479011479011279011279011279005379765a79,
    0x87785a79879b785979879b0131795679ac9a637851937b757c685379765b7987,
    0x785b79879b785a79879b0130795679ac9a6352795193537a757b7b685379765c,
    0x7987785c79879b785b79879b012f795679ac9a6353795193547a757c6b7c6b7c,
    0x6b6c6c6c68537976012379a269011b79011f79a269b9cb519c6901257901207c,
    0x7e5151cd01017c7e011e7901207c7e01257958cd01087c7e01257901207c7e01,
    0x257901207c7e01257901207c7e01227958cd01087c7e01257958cd01087c7e7e,
    0x7e7e7e7e7e7e7eb976c902ec0494765193bc7c7eb976c97602ec049402c30093,
    0x7cbc7eaa02000001aa7e01207e7c7e01877eb900ccc38769007a75007a75007a,
    0x75007a75007a75007a75007a75007a75007a75007a75007a75007a75007a7500,
    0x7a75007a75007a75007a75007a75007a75007a75007a75007a75007a75007a75,
    0x007a75007a75007a75007a75007a75007a75007a75007a75007a75007a75007a,
    0x75007a75007a75007a757575757575757575757575757575757575516776519c,
    0x63755879587958795879587958795879587958795579557955795579537951a2,
    0x69537953a169527952798791695279788791697878879169547900a2695579b0,
    0x0117795c7969765c79876901177978ac69b9cb519c695b7901207c7e0051cd01,
    0x017c7e5d7901207c7e5d7958cd01087c7e5d7901207c7e5d7901207c7e5d7901,
    0x207c7e5d7958cd01087c7e5d7958cd01087c7e7e7e7e7e7e7e7e7eb976c902ec,
    0x0494765193bc7c7eb976c97602ec049402c300937cbc7eaa02000001aa7e0120,
    0x7e7c7e01877eb900ccc38769007a75007a75007a75007a75007a75007a75007a,
    0x75007a75007a75007a75007a75007a75007a75007a7575757575757575757575,
    0x75516776529c6375587958795879587958795879587958795879557955795579,
    0x5579537951a269537953a1695279527987916952797887916978788791695479,
    0x00a269011779765e79876901177978ac695c7969b9cb519c695d7901207c7e00,
    0x51cd01017c7e5d7901207c7e5d7958cd01087c7e5d7901207c7e5d7901207c7e,
    0x5d7901207c7e5d7958cd01087c7e5d7958cd01087c7e7e7e7e7e7e7e7e7eb976,
    0xc902ec0494765193bc7c7eb976c97602ec049402c300937cbc7eaa02000001aa,
    0x7e01207e7c7e01877eb900ccc38769007a75007a75007a75007a75007a75007a,
    0x75007a75007a75007a75007a75007a75007a75007a75007a7575757575757575,
    0x757575755167750069686868]
  maskedWindows := [
    { field := "owner_pubkey", offset := 2, len := 32 },
    { field := "has_pending_owner", offset := 35, len := 1 },
    { field := "pending_owner_pubkey", offset := 37, len := 32 },
    { field := "guardian_threshold", offset := 70, len := 8 },
    { field := "guardian_pubkey_1", offset := 79, len := 32 },
    { field := "guardian_pubkey_2", offset := 112, len := 32 },
    { field := "guardian_pubkey_3", offset := 145, len := 32 },
    { field := "activation_time", offset := 178, len := 8 },
    { field := "recovery_delay", offset := 187, len := 8 }]

def opensilverFreelancePayrollFingerprint : Fingerprint where
  bytes := hexWords 453 [
    0x6b20010101010101010101010101010101010101010101010101010101010101,
    0x0101200202020202020202020202020202020202020202020202020202020202,
    0x0202022003030303030303030303030303030303030303030303030303030303,
    0x030303030804000000000000006c76009c637553795379537953795b79765579,
    0x87695b7978ac695a7976557987695a7978ac6900c2b9be02e803949c6900c355,
    0x79030000207c7e01ac7e8769007a75007a75007a75007a75007a75007a757575,
    0x757575757575516776519c637553795379537953795b7976aa537987695b7978,
    0xac695a7976567987695a7978ac6900c2b9be02e803949c6900c3567903000020,
    0x7c7e01ac7e8769007a75007a75007a75007a75007a75007a7575757575757575,
    0x75516776529c637553795379537953795b7976aa537987695b7978ac695a7976,
    0x557987695a7978ac6900c2b9be02e803949c6900c35579030000207c7e01ac7e,
    0x8769007a75007a75007a75007a75007a75007a75757575757575757551677653,
    0x9c637553797876b057797653798769577978ac6900c2b9be02e803949c6900c3,
    0x5379030000207c7e01ac7e8769007a75007a75007a7575757575757551677500,
    0x6968686868]
  maskedWindows := [
    { field := "client_pubkey", offset := 2, len := 32 },
    { field := "worker_pubkey", offset := 35, len := 32 },
    { field := "arbiter_hash", offset := 68, len := 32 },
    { field := "timeout", offset := 101, len := 8 }]

def kcc20OwnableControllerFingerprint : AnchoredFingerprint where
  head := hexWords 212 [
    0x6b20111111111111111111111111111111111111111111111111111111111111,
    0x1111010020131313131313131313131313131313131313131313131313131313,
    0x1313131313201414141414141414141414141414141414141414141414141414,
    0x14141414141401016c76009c637554795479547953797691695a797655798769,
    0x5a7978ac696079557987695f79547991917c91919c695e79537987695d7900d5,
    0x87695c7969b9cb519c69607901207c7e607951cd01017c7e607901207c7e6079,
    0x01207c7e607951cd01017c7e7e7e7e7eb976c902]
  headMaskedWindows := [
    { field := "admin_pubkey", offset := 2, len := 32 },
    { field := "has_pending_admin", offset := 35, len := 1 },
    { field := "pending_admin_pubkey", offset := 37, len := 32 },
    { field := "kcc20_covenant_id", offset := 70, len := 32 },
    { field := "initialized", offset := 103, len := 1 }]
  tail := hexWords 107 [
    0x06940168937cbc7eaa02000001aa7e01207e7c7e01877eb900ccc38769007a75,
    0x007a75007a75007a75007a75007a75007a75007a75007a75007a75007a75007a,
    0x75007a75007a75007a75007a7575757575757575757575757575757575757575,
    0x7551677500696868686868]

def kcc20PausableControllerFingerprint : AnchoredFingerprint where
  head := hexWords 137 [
    0x6b20111111111111111111111111111111111111111111111111111111111111,
    0x1111010001016c76009c6375769169567900d587695579527991917c91919c69,
    0x547969537920eeeeeeeeeeeeeeeeeeeeeeeeeeeeeeeeeeeeeeeeeeeeeeeeeeee,
    0xeeeeeeeeeeeeac69b9cb519c69567901207c7e567951cd01017c7e567951cd01,
    0x017c7e7e7eb976c902]
  headMaskedWindows := [
    { field := "kcc20_covenant_id", offset := 2, len := 32 },
    { field := "paused", offset := 35, len := 1 },
    { field := "initialized", offset := 37, len := 1 }]
  tail := hexWords 86 [
    0x05940126937cbc7eaa02000001aa7e01207e7c7e01877eb900ccc38769007a75,
    0x007a75007a75007a75007a75007a75007a75007a75007a75007a75007a757575,
    0x75757575757575757575757575516775006968686868]

def kcc20CappedControllerFingerprint : AnchoredFingerprint where
  head := hexWords 186 [
    0x6b20111111111111111111111111111111111111111111111111111111111111,
    0x111108060000000000000008070000000000000001006c76009c637552795279,
    0x5279527952797800a2697600a2697878a269527991695d7900d587695c795579,
    0x9c695b7954799c695a7969597920eeeeeeeeeeeeeeeeeeeeeeeeeeeeeeeeeeee,
    0xeeeeeeeeeeeeeeeeeeeeeeeeeeeeac69b9cb519c695d7901207c7e5d7958cd01,
    0x087c7e5d7958cd01087c7e5d7951cd01017c7e7e7e7eb976c902]
  headMaskedWindows := [
    { field := "kcc20_covenant_id", offset := 2, len := 32 },
    { field := "total_cap", offset := 35, len := 8 },
    { field := "remaining_allowance", offset := 44, len := 8 },
    { field := "initialized", offset := 53, len := 1 }]
  tail := hexWords 107 [
    0x04940136937cbc7eaa02000001aa7e01207e7c7e01877eb900ccc38769007a75,
    0x007a75007a75007a75007a75007a75007a75007a75007a75007a75007a75007a,
    0x75007a75007a75007a75007a75007a75007a7575757575757575757575757575,
    0x7575757551677500696868]

def kcc20VestingControllerFingerprint : AnchoredFingerprint where
  head := hexWords 287 [
    0x6b08050000000000000008060000000000000008070000000000000008080000,
    0x0000000000080900000000000000201616161616161616161616161616161616,
    0x16161616161616161616161616161601016c76009c6375567956795679567956,
    0x795579557955797800a0697600a2697878a269537900a069547900a269527991,
    0x6901167958799c6901157957799c6901147956799c6901137955799c69011279,
    0x54799c6901117900d587696079695f7920eeeeeeeeeeeeeeeeeeeeeeeeeeeeee,
    0xeeeeeeeeeeeeeeeeeeeeeeeeeeeeeeeeeeac69b9cb519c6901167958cd01087c,
    0x7e01167958cd01087c7e01167958cd01087c7e01167958cd01087c7e01167958,
    0xcd01087c7e01167901207c7e01167951cd01017c7e7e7e7e7e7e7eb976c902]
  headMaskedWindows := [
    { field := "total_allocation", offset := 2, len := 8 },
    { field := "minted_amount", offset := 11, len := 8 },
    { field := "cliff_time", offset := 20, len := 8 },
    { field := "period", offset := 29, len := 8 },
    { field := "release_per_period", offset := 38, len := 8 },
    { field := "kcc20_covenant_id", offset := 47, len := 32 },
    { field := "initialized", offset := 80, len := 1 }]
  tail := hexWords 138 [
    0x05940151937cbc7eaa02000001aa7e01207e7c7e01877eb900ccc38769007a75,
    0x007a75007a75007a75007a75007a75007a75007a75007a75007a75007a75007a,
    0x75007a75007a75007a75007a75007a75007a75007a75007a75007a75007a7500,
    0x7a75007a75007a75007a75757575757575757575757575757575757575757575,
    0x75757551677500696868]

/-- All known patterns, in detection order. -/
def buildRegistry : List DetectorEntry := [
  ⟨.openSilverOwnable, .exact opensilverOwnableFingerprint⟩,
  ⟨.openSilverMultisig, .exact opensilverMultisigFingerprint⟩,
  ⟨.openSilverTimeLock, .exact opensilverTimelockFingerprint⟩,
  ⟨.openSilverVault, .exact opensilverVaultFingerprint⟩,
  ⟨.openSilverEscrowBilateral, .exact opensilverEscrowBilateralFingerprint⟩,
  ⟨.openSilverEscrowMilestone, .exact opensilverEscrowMilestoneFingerprint⟩,
  ⟨.openSilverStreamingPayment, .exact opensilverStreamingPaymentFingerprint⟩,
  ⟨.openSilverVesting, .exact opensilverVestingFingerprint⟩,
  ⟨.openSilverDeadMansSwitch, .exact opensilverDeadMansSwitchFingerprint⟩,
  ⟨.openSilverSocialRecovery, .exact opensilverSocialRecoveryFingerprint⟩,
  ⟨.openSilverAtomicSwapHTLC, .exact opensilverAtomicSwapHtlcFingerprint⟩,
  ⟨.openSilverFreelancePayroll, .exact opensilverFreelancePayrollFingerprint⟩,
  ⟨.kcc20Asset, .anchored kcc20AssetFingerprint⟩,
  ⟨.kcc20OwnableController, .anchored kcc20OwnableControllerFingerprint⟩,
  ⟨.kcc20PausableController, .anchored kcc20PausableControllerFingerprint⟩,
  ⟨.kcc20CappedController, .anchored kcc20CappedControllerFingerprint⟩,
  ⟨.kcc20VestingController, .anchored kcc20VestingControllerFingerprint⟩]

end KasGraph
