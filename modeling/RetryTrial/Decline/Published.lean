import RetryTrial.Decline.Table

/-!
# Published decline codes

The codes that the processors Adyen, Braintree and Paymentech publish, with their meaning, and the
plugins that talk to them. Two plugins share the codes of Paymentech.
-/

namespace RetryTrial.Published
open Category

def adyenCodes : List PublishedCode := [
  ⟨1, "Refer to card issuer", generalDecline, true⟩,
  ⟨3, "Invalid merchant", generalDecline, true⟩,
  ⟨4, "Capture card", generalDecline, false⟩,
  ⟨5, "Do not honor", generalDecline, true⟩,
  ⟨6, "Error", generalDecline, true⟩,
  ⟨7, "Pickup card, special condition", generalDecline, false⟩,
  ⟨12, "Invalid transaction", generalDecline, true⟩,
  ⟨13, "Invalid amount", generalDecline, true⟩,
  ⟨14, "Invalid card number", cardNumberMismatch, true⟩,
  ⟨15, "Invalid issuer", generalDecline, true⟩,
  ⟨30, "Format error", generalDecline, true⟩,
  ⟨41, "Lost card", lostOrStolen, false⟩,
  ⟨43, "Stolen card", lostOrStolen, false⟩,
  ⟨51, "Insufficient funds/over credit limit", insufficientFunds, true⟩,
  ⟨54, "Expired card", expiredCard, true⟩,
  ⟨55, "Invalid PIN", generalDecline, true⟩,
  ⟨57, "Transaction not permitted to cardholder", generalDecline, true⟩,
  ⟨59, "Suspected fraud", fraud, true⟩,
  ⟨61, "Exceeds withdrawal amount limit", generalDecline, true⟩,
  ⟨62, "Restricted card", generalDecline, true⟩,
  ⟨63, "Security violation", generalDecline, true⟩,
  ⟨65, "Exceeds withdrawal count limit", generalDecline, true⟩,
  ⟨70, "Contact Card Issuer", generalDecline, true⟩,
  ⟨75, "Allowable number of PIN tries exceeded", generalDecline, true⟩,
  ⟨78, "Blocked, first used", generalDecline, false⟩,
  ⟨80, "Credit issuer unavailable", generalDecline, true⟩,
  ⟨91, "Issuer unavailable or switch inoperative", generalDecline, true⟩,
  ⟨92, "Destination cannot be found for routing", generalDecline, true⟩,
  ⟨93, "Transaction cannot be completed; violation of law", generalDecline, true⟩,
  ⟨96, "System malfunction", generalDecline, true⟩]

def braintreeCodes : List PublishedCode := [
  ⟨2000, "Do Not Honor", generalDecline, true⟩,
  ⟨2001, "Insufficient Funds", insufficientFunds, true⟩,
  ⟨2002, "Limit Exceeded", generalDecline, true⟩,
  ⟨2003, "Cardholder's Activity Limit Exceeded", generalDecline, true⟩,
  ⟨2004, "Expired Card", expiredCard, false⟩,
  ⟨2005, "Invalid Credit Card Number", cardNumberMismatch, false⟩,
  ⟨2006, "Invalid Expiration Date", expirationDateMismatch, false⟩,
  ⟨2007, "No Account", generalDecline, false⟩,
  ⟨2008, "Card Account Length Error", generalDecline, false⟩,
  ⟨2009, "No Such Issuer", generalDecline, true⟩,
  ⟨2010, "Card Issuer Declined CVV", cvvMismatch, false⟩,
  ⟨2011, "Voice Authorization Required", generalDecline, false⟩,
  ⟨2012, "Processor Declined Possible Lost Card", lostOrStolen, false⟩,
  ⟨2013, "Processor Declined - Possible Stolen Card", lostOrStolen, false⟩,
  ⟨2014, "Processor Declined - Fraud Suspected", fraud, false⟩,
  ⟨2015, "Transaction Not Allowed", generalDecline, false⟩,
  ⟨2016, "Duplicate Transaction", generalDecline, true⟩,
  ⟨2017, "Cardholder Stopped Billing", generalDecline, false⟩,
  ⟨2018, "Cardholder Stopped All Billing", generalDecline, false⟩,
  ⟨2019, "Invalid Transaction", generalDecline, false⟩,
  ⟨2020, "Violation", generalDecline, false⟩,
  ⟨2021, "Security Violation", generalDecline, true⟩,
  ⟨2022, "Declined - Updated Cardholder Available", generalDecline, false⟩,
  ⟨2023, "Processor Does Not Support This Feature", generalDecline, false⟩,
  ⟨2024, "Card Type Not Enabled", generalDecline, false⟩,
  ⟨2025, "Set Up Error - Merchant", generalDecline, true⟩,
  ⟨2026, "Invalid Merchant ID", generalDecline, true⟩,
  ⟨2027, "Set Up Error - Amount", generalDecline, false⟩,
  ⟨2028, "Set Up Error - Hierarchy", generalDecline, false⟩,
  ⟨2029, "Set Up Error - Card", generalDecline, false⟩,
  ⟨2030, "Set Up Error - Terminal", generalDecline, false⟩,
  ⟨2031, "Encryption Error", generalDecline, false⟩,
  ⟨2032, "Surcharge Not Permitted", generalDecline, false⟩,
  ⟨2033, "Inconsistent Data", generalDecline, true⟩,
  ⟨2034, "No Action Taken", generalDecline, true⟩,
  ⟨2035, "Partial Approval For Amount In Group III Version", generalDecline, true⟩,
  ⟨2036, "Authorization could not be found to reverse", generalDecline, false⟩,
  ⟨2037, "Already Reversed", generalDecline, false⟩,
  ⟨2038, "Processor Declined", generalDecline, true⟩,
  ⟨2039, "Invalid Authorization Code", generalDecline, false⟩,
  ⟨2040, "Invalid Store", generalDecline, true⟩,
  ⟨2041, "Declined - Call For Approval", generalDecline, false⟩,
  ⟨2042, "Invalid Client ID", generalDecline, true⟩,
  ⟨2043, "Error - Do Not Retry, Call Issuer", generalDecline, false⟩,
  ⟨2044, "Declined - Call Issuer", generalDecline, false⟩,
  ⟨2045, "Invalid Merchant Number", generalDecline, false⟩,
  ⟨2046, "Declined", generalDecline, true⟩,
  ⟨2047, "Call Issuer. Pick Up Card", generalDecline, false⟩,
  ⟨2048, "Invalid Amount", generalDecline, true⟩,
  ⟨2049, "Invalid SKU Number", generalDecline, false⟩,
  ⟨2050, "Invalid Credit Plan", generalDecline, true⟩,
  ⟨2051, "Credit Card Number does not match method of payment", generalDecline, false⟩,
  ⟨2053, "Card reported as lost or stolen", lostOrStolen, false⟩,
  ⟨2054, "Reversal amount does not match authorization amount", generalDecline, true⟩,
  ⟨2055, "Invalid Transaction Division Number", generalDecline, false⟩,
  ⟨2056, "Transaction amount exceeds the transaction division limit", generalDecline, false⟩,
  ⟨2057, "Issuer or Cardholder has put a restriction on the card", generalDecline, true⟩,
  ⟨2058, "Merchant not MasterCard SecureCode enabled", generalDecline, false⟩,
  ⟨2059, "Address Verification Failed", addressMismatch, false⟩,
  ⟨2060, "Address Verification and Card Security Code Failed", addressMismatch, false⟩,
  ⟨2061, "Invalid Transaction Data", generalDecline, false⟩,
  ⟨2062, "Invalid Tax Amount", generalDecline, true⟩,
  ⟨2063, "PayPal Business Account preference resulted in the transaction failing",
    generalDecline, false⟩,
  ⟨2064, "Invalid Currency Code", generalDecline, false⟩,
  ⟨2065, "Refund Time Limit Exceeded", generalDecline, false⟩,
  ⟨2066, "PayPal Business Account Restricted", generalDecline, false⟩,
  ⟨2067, "Authorization Expired", generalDecline, false⟩,
  ⟨2068, "PayPal Business Account Locked or Closed", generalDecline, false⟩,
  ⟨2069, "PayPal Blocking Duplicate Order IDs", generalDecline, false⟩,
  ⟨2070, "PayPal Buyer Revoked Future Payment Authorization", generalDecline, false⟩,
  ⟨2071, "PayPal Payee Account Invalid Or Does Not Have a Confirmed Email", generalDecline, false⟩,
  ⟨2072, "PayPal Payee Email Incorrectly Formatted", generalDecline, false⟩,
  ⟨2073, "PayPal Validation Error", generalDecline, false⟩,
  ⟨2074,
    "Funding Instrument In The PayPal Account Was Declined By The Processor Or Bank, Or It Can't Be Used For This Payment",
    generalDecline, false⟩,
  ⟨2075, "Payer Account Is Locked Or Closed", generalDecline, false⟩,
  ⟨2076, "Payer Cannot Pay For This Transaction With PayPal", generalDecline, false⟩,
  ⟨2077, "Transaction Refused Due To PayPal Risk Model", generalDecline, false⟩,
  ⟨2079, "PayPal Merchant Account Configuration Error", generalDecline, false⟩,
  ⟨2081, "PayPal pending payments are not supported", generalDecline, false⟩,
  ⟨2082, "PayPal Domestic Transaction Required", generalDecline, false⟩,
  ⟨2083, "PayPal Phone Number Required", generalDecline, false⟩,
  ⟨2084, "PayPal Tax Info Required", generalDecline, false⟩,
  ⟨2085, "PayPal Payee Blocked Transaction", generalDecline, false⟩,
  ⟨2086, "PayPal Transaction Limit Exceeded", generalDecline, false⟩,
  ⟨2087, "PayPal reference transactions not enabled for your account", generalDecline, false⟩,
  ⟨2088, "Currency not enabled for your PayPal seller account", generalDecline, false⟩,
  ⟨2089, "PayPal payee email permission denied for this request", generalDecline, false⟩,
  ⟨2090, "PayPal account not configured to refund more than settled amount", generalDecline, false⟩,
  ⟨2091, "Currency of this transaction must match currency of your PayPal account",
    generalDecline, false⟩,
  ⟨2092, "Processor Declined", generalDecline, true⟩,
  ⟨2093, "Processor Declined", generalDecline, true⟩,
  ⟨2094, "Processor Declined", generalDecline, true⟩,
  ⟨2095, "Processor Declined", generalDecline, true⟩,
  ⟨2096, "Processor Declined", generalDecline, true⟩,
  ⟨2097, "Processor Declined", generalDecline, true⟩,
  ⟨2098, "Processor Declined", generalDecline, true⟩,
  ⟨2099, "Processor Declined", generalDecline, true⟩,
  ⟨3000, "Processor Network Unavailable - Try Again", generalDecline, true⟩]

def paymentechCodes : List PublishedCode := [
  ⟨109, "Previously Processed Transaction", generalDecline, true⟩,
  ⟨201, "Invalid CC Number", cardNumberMismatch, false⟩,
  ⟨202, "Bad Amount", generalDecline, true⟩,
  ⟨203, "Zero Amount", generalDecline, true⟩,
  ⟨204, "Other Error", generalDecline, true⟩,
  ⟨205, "Bad Total Authorization Amount", generalDecline, true⟩,
  ⟨225, "Invalid Value in Message", generalDecline, true⟩,
  ⟨226, "Invalid Data Type", generalDecline, true⟩,
  ⟨227, "Missing Companion Data", generalDecline, true⟩,
  ⟨228, "Invalid Record Sequence", generalDecline, true⟩,
  ⟨229, "Percents Not Total 100", generalDecline, true⟩,
  ⟨230, "Payments Not Total Order", generalDecline, true⟩,
  ⟨231, "Invalid Merchant Number", generalDecline, true⟩,
  ⟨232, "Bad Order Number", generalDecline, true⟩,
  ⟨233, "Does not Match MOP", generalDecline, true⟩,
  ⟨234, "Duplicated Order #", generalDecline, true⟩,
  ⟨235, "FPO Locked", generalDecline, true⟩,
  ⟨236, "Auth Recycle Host down", generalDecline, true⟩,
  ⟨237, "FPO Not Allowed", generalDecline, false⟩,
  ⟨238, "Invalid Currency", generalDecline, true⟩,
  ⟨239, "Invalid MOP for Division", generalDecline, false⟩,
  ⟨240, "Auth Amount Wrong", generalDecline, true⟩,
  ⟨241, "Illegal Action", generalDecline, true⟩,
  ⟨243, "Invalid Purch. Level 3", generalDecline, true⟩,
  ⟨245, "Invalid Secure Payment Data", generalDecline, true⟩,
  ⟨246, "Merchant not MC SecureCode Enabled", generalDecline, false⟩,
  ⟨248, "Blanks not Passed in Reserved Field", generalDecline, true⟩,
  ⟨249, "Invalid MCC Sent", generalDecline, true⟩,
  ⟨251, "Invalid Start Date", generalDecline, true⟩,
  ⟨252, "Invalid Issue Number", generalDecline, true⟩,
  ⟨253, "Invalid Transaction Type", generalDecline, true⟩,
  ⟨257,
    "Customer Service Phone Number required on Transaction Types 1 (MO/TO) and 2 (Recurring). MC Only",
    generalDecline, true⟩,
  ⟨258, "Not Authorized to send record", generalDecline, true⟩,
  ⟨260, "Soft AVS", addressMismatch, true⟩,
  ⟨301, "Issuer Unavailable", generalDecline, true⟩,
  ⟨302, "Credit Floor", insufficientFunds, true⟩,
  ⟨303, "Processor Decline", generalDecline, false⟩,
  ⟨304, "Not on File", generalDecline, true⟩,
  ⟨332, "Floor Low Fraud", generalDecline, false⟩,
  ⟨333, "Floor Medium Fraud", generalDecline, false⟩,
  ⟨334, "Floor High fraud", generalDecline, false⟩,
  ⟨335, "Floor Unavailable Fraud", generalDecline, true⟩,
  ⟨401, "Call/Refer to Card Issuer", generalDecline, false⟩,
  ⟨402, "Default Call", generalDecline, false⟩,
  ⟨432, "Call Low Fraud", generalDecline, false⟩,
  ⟨433, "Call Medium Fraud", generalDecline, false⟩,
  ⟨434, "Call High Fraud", generalDecline, false⟩,
  ⟨435, "Call Unavailable Fraud", generalDecline, false⟩,
  ⟨442, "Default Call Low Fraud", generalDecline, false⟩,
  ⟨443, "Default Call Medium Fraud", generalDecline, false⟩,
  ⟨444, "Default Call High Fraud", generalDecline, false⟩,
  ⟨445, "Default Call Unavailable Fraud", generalDecline, false⟩,
  ⟨501, "Pickup", generalDecline, false⟩,
  ⟨502, "Lost/Stolen", generalDecline, false⟩,
  ⟨503, "Fraud", generalDecline, false⟩,
  ⟨504, "Bad Debt", generalDecline, false⟩,
  ⟨505, "On Negative File", generalDecline, false⟩,
  ⟨506, "Invalid Issuer", generalDecline, true⟩,
  ⟨507, "Invalid Response Code", generalDecline, true⟩,
  ⟨508, "Excessive PIN Try", generalDecline, false⟩,
  ⟨509, "Over Limit", generalDecline, false⟩,
  ⟨510, "Over Freq Limit", generalDecline, false⟩,
  ⟨511, "Over Sav Limit", generalDecline, false⟩,
  ⟨512, "Over Sav Freq", generalDecline, false⟩,
  ⟨514, "Over Credit Freq", generalDecline, false⟩,
  ⟨515, "Invalid For Credit", generalDecline, true⟩,
  ⟨516, "Invalid For Debit", generalDecline, true⟩,
  ⟨517, "Rev Exceed Withdrawal", generalDecline, false⟩,
  ⟨518, "One Purchasing Limit", generalDecline, false⟩,
  ⟨519, "On Negative File", generalDecline, false⟩,
  ⟨520, "Changed Field", generalDecline, true⟩,
  ⟨521, "Insufficient Funds", generalDecline, true⟩,
  ⟨522, "Card is Expired", generalDecline, false⟩,
  ⟨523, "Encrypted Data Bad", generalDecline, true⟩,
  ⟨524, "Altered Data", generalDecline, true⟩,
  ⟨530, "Do Not Honor", generalDecline, false⟩,
  ⟨531, "CVV2/CVC2 Failure", generalDecline, false⟩,
  ⟨532, "Do Not Honor Low Fraud", generalDecline, false⟩,
  ⟨533, "Do Not Honor Medium Fraud", generalDecline, false⟩,
  ⟨534, "Do Not Honor High fraud", generalDecline, false⟩,
  ⟨535, "Do Not Honor Unavailable Fraud", generalDecline, false⟩,
  ⟨540, "Under 18 Years Old", generalDecline, false⟩,
  ⟨541, "Possible Compromise", generalDecline, false⟩,
  ⟨542, "Bill To Not Equal To Ship To", generalDecline, false⟩,
  ⟨543, "Invalid Pre-approval Number", generalDecline, false⟩,
  ⟨544, "Invalid Email Address", generalDecline, false⟩,
  ⟨545, "PA ITA Number Inactive", generalDecline, false⟩,
  ⟨546, "Blocked Account", generalDecline, false⟩,
  ⟨547, "Address Verification Failed", generalDecline, false⟩,
  ⟨548, "Not on Credit Bureau", generalDecline, false⟩,
  ⟨549, "Previously Declined", generalDecline, false⟩,
  ⟨550, "Closed Account, New Account Closed", generalDecline, false⟩,
  ⟨551, "Duplicate Transaction", generalDecline, false⟩,
  ⟨560, "Re-Authorization", generalDecline, false⟩,
  ⟨561, "Re-Authorization – No Match", generalDecline, false⟩,
  ⟨563, "Re-Authorization – Timeframes Exceeded", generalDecline, false⟩,
  ⟨570, "Stop Deposit Order", generalDecline, false⟩,
  ⟨571, "Revocation of Authorization", generalDecline, false⟩,
  ⟨580, "Account Previously Activated", generalDecline, false⟩,
  ⟨581, "Unable to Void Transaction", generalDecline, true⟩,
  ⟨582, "Block Activation Failed – Card Range Not Set Up for MOD 10", generalDecline, true⟩,
  ⟨583, "Block Activation Failed – E-mail or Fulfillment Flags were set to Y",
    generalDecline, true⟩,
  ⟨584, "Declined – Issuance Does Not Meet Minimum Amount", generalDecline, false⟩,
  ⟨585, "Declined – No Original Auth Found", generalDecline, false⟩,
  ⟨586, "Declined – Outstanding Auth, Funds On Hold", generalDecline, false⟩,
  ⟨587, "Activation Amount Incorrect", generalDecline, true⟩,
  ⟨588, "Block Activation Failed – Account Not Correct Or Block Size Not Correct",
    generalDecline, true⟩,
  ⟨589, "Mag Stripe CVD Value Failed", generalDecline, true⟩,
  ⟨590, "Max Redemption Limit Met", generalDecline, true⟩,
  ⟨591, "Invalid Credit Card Number", generalDecline, false⟩,
  ⟨592, "Bad Amount", generalDecline, true⟩,
  ⟨594, "Other Error", generalDecline, false⟩,
  ⟨595, "New Card Issued", generalDecline, false⟩,
  ⟨596, "Issuer has Flagged Account as Suspected Fraud. (Discover Only)", generalDecline, false⟩,
  ⟨601, "Invalid Prefix", generalDecline, true⟩,
  ⟨602, "Invalid Institution Code", generalDecline, true⟩,
  ⟨603, "Invalid Institution", generalDecline, true⟩,
  ⟨604, "Invalid Cardholder", generalDecline, true⟩,
  ⟨605, "Invalid Expiration Date", generalDecline, true⟩,
  ⟨606, "Invalid Transaction Type", generalDecline, false⟩,
  ⟨607, "Invalid Amount", generalDecline, true⟩,
  ⟨610, "BIN Block", generalDecline, true⟩,
  ⟨750, "Invalid Transit Routing Number", generalDecline, true⟩,
  ⟨751, "Unknown Transit Routing Number", generalDecline, true⟩,
  ⟨752, "Missing Name", generalDecline, true⟩,
  ⟨753, "Invalid Account Type", generalDecline, true⟩,
  ⟨754, "Account Closed", generalDecline, false⟩,
  ⟨755, "No Account/Unable To Locate", generalDecline, true⟩,
  ⟨756, "Account Holder Deceased", generalDecline, false⟩,
  ⟨757, "Beneficiary Deceased", generalDecline, false⟩,
  ⟨758, "Account Frozen", generalDecline, false⟩,
  ⟨759, "Customer Opt Out", generalDecline, false⟩,
  ⟨760, "ACH Non-Participant", generalDecline, false⟩,
  ⟨761, "No Pre-note", generalDecline, true⟩,
  ⟨762, "No Address", generalDecline, true⟩,
  ⟨763, "Invalid Account Number", generalDecline, true⟩,
  ⟨764, "Authorization Revoked by Consumer", generalDecline, true⟩,
  ⟨765, "Customer Advises Not Authorized", generalDecline, false⟩,
  ⟨766, "Invalid CECP Action Code", generalDecline, false⟩,
  ⟨767, "Invalid Account Format", generalDecline, true⟩,
  ⟨768, "Bad Account Number Data", generalDecline, true⟩,
  ⟨769, "Account Non-Convertible", generalDecline, true⟩,
  ⟨801, "No Capture", generalDecline, true⟩,
  ⟨802, "Positive ID", generalDecline, false⟩,
  ⟨803, "No Credit Function", generalDecline, true⟩,
  ⟨804, "No Debit Function", generalDecline, true⟩,
  ⟨805, "Rev Exceed Withdrawal", generalDecline, false⟩,
  ⟨806, "Restraint", generalDecline, false⟩,
  ⟨807, "Changed Field", generalDecline, true⟩,
  ⟨808, "Terminal Not Owned", generalDecline, true⟩,
  ⟨809, "Invalid Time", generalDecline, true⟩,
  ⟨810, "Invalid Date", generalDecline, true⟩,
  ⟨811, "Invalid Amex CID", generalDecline, false⟩,
  ⟨812, "Invalid Terminal Number", generalDecline, true⟩,
  ⟨813, "Invalid PIN", generalDecline, false⟩,
  ⟨814, "No Manual Key", generalDecline, true⟩,
  ⟨815, "Not Signed In", generalDecline, true⟩,
  ⟨816, "Excessive PIN Try", generalDecline, false⟩,
  ⟨817, "No DDA", generalDecline, true⟩,
  ⟨818, "No SAV", generalDecline, true⟩,
  ⟨819, "Excess DDA", generalDecline, false⟩,
  ⟨820, "Excess DDA FREQ", generalDecline, false⟩,
  ⟨821, "Excess SAV", generalDecline, false⟩,
  ⟨822, "Excess SAV FREQ", generalDecline, false⟩,
  ⟨823, "Excess Card", generalDecline, false⟩,
  ⟨824, "Excess Card Freq", generalDecline, false⟩,
  ⟨825, "No Account", generalDecline, false⟩,
  ⟨826, "Reserved Future", generalDecline, true⟩,
  ⟨827, "Reserved Closing", generalDecline, true⟩,
  ⟨828, "Dormant", generalDecline, false⟩,
  ⟨829, "NSF", generalDecline, true⟩,
  ⟨830, "Future RD Six", generalDecline, true⟩,
  ⟨831, "Future RD Seven", generalDecline, true⟩,
  ⟨832, "Transaction Code Conflict", generalDecline, true⟩,
  ⟨833, "Invalid Merchant", generalDecline, true⟩,
  ⟨834, "Method of Payment is Invalid for Merchant", generalDecline, true⟩,
  ⟨901, "In Progress", generalDecline, true⟩,
  ⟨902, "Process Unavailable", generalDecline, true⟩,
  ⟨903, "Invalid Expiration", generalDecline, true⟩,
  ⟨904, "Invalid Effective", generalDecline, true⟩,
  ⟨905, "Stand In Rules", generalDecline, false⟩]

def registrations : List Registration := [
  .processor "Adyen" adyenCodes,
  .processor "Braintree" braintreeCodes,
  .processor "Paymentech" paymentechCodes,
  .route "killbill-adyen" "Adyen",
  .route "killbill-braintree_blue" "Braintree",
  .route "killbill-orbital" "Paymentech",
  .route "killbill-cybersource" "Paymentech"]

def table : Table := (Table.build registrations).value

end RetryTrial.Published
