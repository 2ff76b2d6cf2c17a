import EngineActions.Action

namespace EngineActions.Shipped
open ValueType

def nwn1From0 : List Declaration := [
  declare 0 "Random" 1 int [int]
    "int Random(int nMaxInteger);",
  declare 1 "PrintString" 1 void [string]
    "void PrintString(string sString);",
  declare 2 "PrintFloat" 1 void [float, int, int]
    "void PrintFloat(float fFloat, int nWidth=18, int nDecimals=9);",
  declare 3 "FloatToString" 1 string [float, int, int]
    "string FloatToString(float fFloat, int nWidth=18, int nDecimals=9);",
  declare 4 "PrintInteger" 1 void [int]
    "void PrintInteger(int nInteger);",
  declare 5 "PrintObject" 1 void [object]
    "void PrintObject(object oObject);",
  declare 6 "AssignCommand" 2 void [object, action]
    "void AssignCommand(object oActionSubject, action aActionToAssign);",
  declare 7 "DelayCommand" 2 void [float, action]
    "void DelayCommand(float fSeconds, action aActionToDelay);",
  declare 8 "ExecuteScript" 2 void [string, object]
    "void ExecuteScript(string sScript, object oTarget);",
  declare 9 "ClearAllActions" 0 void [int]
    "void ClearAllActions(int nClearCombatState=FALSE);",
  declare 10 "SetFacing" 1 void [float]
    "void SetFacing(float fDirection);",
  declare 11 "SetCalendar" 3 void [int, int, int]
    "void SetCalendar(int nYear, int nMonth, int nDay);",
  declare 12 "SetTime" 4 void [int, int, int, int]
    "void SetTime(int nHour, int nMinute, int nSecond, int nMillisecond);",
  declare 13 "GetCalendarYear" 0 int []
    "int GetCalendarYear();",
  declare 14 "GetCalendarMonth" 0 int []
    "int GetCalendarMonth();",
  declare 15 "GetCalendarDay" 0 int []
    "int GetCalendarDay();",
  declare 16 "GetTimeHour" 0 int []
    "int GetTimeHour();",
  declare 17 "GetTimeMinute" 0 int []
    "int GetTimeMinute();",
  declare 18 "GetTimeSecond" 0 int []
    "int GetTimeSecond();",
  declare 19 "GetTimeMillisecond" 0 int []
    "int GetTimeMillisecond();",
  declare 20 "ActionRandomWalk" 0 void []
    "void ActionRandomWalk();",
  declare 21 "ActionMoveToLocation" 1 void [location, int]
    "void ActionMoveToLocation(location lDestination, int bRun=FALSE);",
  declare 22 "ActionMoveToObject" 1 void [object, int, float]
    "void ActionMoveToObject(object oMoveTo, int bRun=FALSE, float fRange=1.0f);",
  declare 23 "ActionMoveAwayFromObject" 1 void [object, int, float]
    "void ActionMoveAwayFromObject(object oFleeFrom, int bRun=FALSE, float fMoveAwayRange=40.0f);",
  declare 24 "GetArea" 1 object [object]
    "object GetArea(object oTarget);",
  declare 25 "GetEnteringObject" 0 object []
    "object GetEnteringObject();",
  declare 26 "GetExitingObject" 0 object []
    "object GetExitingObject();",
  declare 27 "GetPosition" 1 vector [object]
    "vector GetPosition(object oTarget);",
  declare 28 "GetFacing" 1 float [object]
    "float GetFacing(object oTarget);",
  declare 29 "GetItemPossessor" 1 object [object]
    "object GetItemPossessor(object oItem);",
  declare 30 "GetItemPossessedBy" 2 object [object, string]
    "object GetItemPossessedBy(object oCreature, string sItemTag);",
  declare 31 "CreateItemOnObject" 1 object [string, object, int, string]
    "object CreateItemOnObject(string sItemTemplate, object oTarget=OBJECT_SELF, int nStackSize=1, string sNewTag=\"\");",
  declare 32 "ActionEquipItem" 2 void [object, int]
    "void ActionEquipItem(object oItem, int nInventorySlot);",
  declare 33 "ActionUnequipItem" 1 void [object]
    "void ActionUnequipItem(object oItem);",
  declare 34 "ActionPickUpItem" 1 void [object]
    "void ActionPickUpItem(object oItem);",
  declare 35 "ActionPutDownItem" 1 void [object]
    "void ActionPutDownItem(object oItem);",
  declare 36 "GetLastAttacker" 0 object [object]
    "object GetLastAttacker(object oAttackee=OBJECT_SELF);",
  declare 37 "ActionAttack" 1 void [object, int]
    "void ActionAttack(object oAttackee, int bPassive=FALSE);",
  declare 38 "GetNearestCreature" 2 object [int, int, object, int, int, int, int, int]
    "object GetNearestCreature(int nFirstCriteriaType, int nFirstCriteriaValue, object oTarget=OBJECT_SELF, int nNth=1, int nSecondCriteriaType=-1, int nSecondCriteriaValue=-1, int nThirdCriteriaType=-1, int nThirdCriteriaValue=-1);",
  declare 39 "ActionSpeakString" 1 void [string, int]
    "void ActionSpeakString(string sStringToSpeak, int nTalkVolume=TALKVOLUME_TALK);",
  declare 40 "ActionPlayAnimation" 1 void [int, float, float]
    "void ActionPlayAnimation(int nAnimation, float fSpeed=1.0, float fDurationSeconds=0.0);",
  declare 41 "GetDistanceToObject" 1 float [object]
    "float GetDistanceToObject(object oObject);",
  declare 42 "GetIsObjectValid" 1 int [object]
    "int GetIsObjectValid(object oObject);",
  declare 43 "ActionOpenDoor" 1 void [object]
    "void ActionOpenDoor(object oDoor);",
  declare 44 "ActionCloseDoor" 1 void [object]
    "void ActionCloseDoor(object oDoor);",
  declare 45 "SetCameraFacing" 1 void [float, float, float, int]
    "void SetCameraFacing(float fDirection, float fDistance=-1.0f, float fPitch=-1.0, int nTransitionType=CAMERA_TRANSITION_TYPE_SNAP);",
  declare 46 "PlaySound" 1 void [string]
    "void PlaySound(string sSoundName);",
  declare 47 "GetSpellTargetObject" 0 object []
    "object GetSpellTargetObject();",
  declare 48 "ActionCastSpellAtObject" 2 void [int, object, int, int, int, int, int]
    "void ActionCastSpellAtObject(int nSpell, object oTarget, int nMetaMagic=METAMAGIC_ANY, int bCheat=FALSE, int nDomainLevel=0, int nProjectilePathType=PROJECTILE_PATH_TYPE_DEFAULT, int bInstantSpell=FALSE);",
  declare 49 "GetCurrentHitPoints" 0 int [object]
    "int GetCurrentHitPoints(object oObject=OBJECT_SELF);",
  declare 50 "GetMaxHitPoints" 0 int [object]
    "int GetMaxHitPoints(object oObject=OBJECT_SELF);",
  declare 51 "GetLocalInt" 2 int [object, string]
    "int GetLocalInt(object oObject, string sVarName);",
  declare 52 "GetLocalFloat" 2 float [object, string]
    "float GetLocalFloat(object oObject, string sVarName);",
  declare 53 "GetLocalString" 2 string [object, string]
    "string GetLocalString(object oObject, string sVarName);",
  declare 54 "GetLocalObject" 2 object [object, string]
    "object GetLocalObject(object oObject, string sVarName);",
  declare 55 "SetLocalInt" 3 void [object, string, int]
    "void SetLocalInt(object oObject, string sVarName, int nValue);",
  declare 56 "SetLocalFloat" 3 void [object, string, float]
    "void SetLocalFloat(object oObject, string sVarName, float fValue);",
  declare 57 "SetLocalString" 3 void [object, string, string]
    "void SetLocalString(object oObject, string sVarName, string sValue);",
  declare 58 "SetLocalObject" 3 void [object, string, object]
    "void SetLocalObject(object oObject, string sVarName, object oValue);",
  declare 59 "GetStringLength" 1 int [string]
    "int GetStringLength(string sString);",
  declare 60 "GetStringUpperCase" 1 string [string]
    "string GetStringUpperCase(string sString);",
  declare 61 "GetStringLowerCase" 1 string [string]
    "string GetStringLowerCase(string sString);",
  declare 62 "GetStringRight" 2 string [string, int]
    "string GetStringRight(string sString, int nCount);",
  declare 63 "GetStringLeft" 2 string [string, int]
    "string GetStringLeft(string sString, int nCount);",
  declare 64 "InsertString" 3 string [string, string, int]
    "string InsertString(string sDestination, string sString, int nPosition);",
  declare 65 "GetSubString" 3 string [string, int, int]
    "string GetSubString(string sString, int nStart, int nCount);",
  declare 66 "FindSubString" 2 int [string, string, int]
    "int FindSubString(string sString, string sSubString, int nStart=0);",
  declare 67 "fabs" 1 float [float]
    "float fabs(float fValue);",
  declare 68 "cos" 1 float [float]
    "float cos(float fValue);",
  declare 69 "sin" 1 float [float]
    "float sin(float fValue);",
  declare 70 "tan" 1 float [float]
    "float tan(float fValue);",
  declare 71 "acos" 1 float [float]
    "float acos(float fValue);",
  declare 72 "asin" 1 float [float]
    "float asin(float fValue);",
  declare 73 "atan" 1 float [float]
    "float atan(float fValue);",
  declare 74 "log" 1 float [float]
    "float log(float fValue);",
  declare 75 "pow" 2 float [float, float]
    "float pow(float fValue, float fExponent);",
  declare 76 "sqrt" 1 float [float]
    "float sqrt(float fValue);",
  declare 77 "abs" 1 int [int]
    "int abs(int nValue);",
  declare 78 "EffectHeal" 1 effect [int]
    "effect EffectHeal(int nDamageToHeal);",
  declare 79 "EffectDamage" 1 effect [int, int, int]
    "effect EffectDamage(int nDamageAmount, int nDamageType=DAMAGE_TYPE_MAGICAL, int nDamagePower=DAMAGE_POWER_NORMAL);",
  declare 80 "EffectAbilityIncrease" 2 effect [int, int]
    "effect EffectAbilityIncrease(int nAbilityToIncrease, int nModifyBy);",
  declare 81 "EffectDamageResistance" 2 effect [int, int, int]
    "effect EffectDamageResistance(int nDamageType, int nAmount, int nLimit=0);",
  declare 82 "EffectResurrection" 0 effect []
    "effect EffectResurrection();",
  declare 83 "EffectSummonCreature" 1 effect [string, int, float, int]
    "effect EffectSummonCreature(string sCreatureResref, int nVisualEffectId=VFX_NONE, float fDelaySeconds=0.0f, int nUseAppearAnimation=0);",
  declare 84 "GetCasterLevel" 1 int [object]
    "int GetCasterLevel(object oCreature);",
  declare 85 "GetFirstEffect" 1 effect [object]
    "effect GetFirstEffect(object oCreature);",
  declare 86 "GetNextEffect" 1 effect [object]
    "effect GetNextEffect(object oCreature);",
  declare 87 "RemoveEffect" 2 void [object, effect]
    "void RemoveEffect(object oCreature, effect eEffect);",
  declare 88 "GetIsEffectValid" 1 int [effect]
    "int GetIsEffectValid(effect eEffect);",
  declare 89 "GetEffectDurationType" 1 int [effect]
    "int GetEffectDurationType(effect eEffect);",
  declare 90 "GetEffectSubType" 1 int [effect]
    "int GetEffectSubType(effect eEffect);",
  declare 91 "GetEffectCreator" 1 object [effect]
    "object GetEffectCreator(effect eEffect);",
  declare 92 "IntToString" 1 string [int]
    "string IntToString(int nInteger);",
  declare 93 "GetFirstObjectInArea" 0 object [object]
    "object GetFirstObjectInArea(object oArea=OBJECT_INVALID);",
  declare 94 "GetNextObjectInArea" 0 object [object]
    "object GetNextObjectInArea(object oArea=OBJECT_INVALID);",
  declare 95 "d2" 0 int [int]
    "int d2(int nNumDice=1);",
  declare 96 "d3" 0 int [int]
    "int d3(int nNumDice=1);",
  declare 97 "d4" 0 int [int]
    "int d4(int nNumDice=1);",
  declare 98 "d6" 0 int [int]
    "int d6(int nNumDice=1);",
  declare 99 "d8" 0 int [int]
    "int d8(int nNumDice=1);",
  declare 100 "d10" 0 int [int]
    "int d10(int nNumDice=1);",
  declare 101 "d12" 0 int [int]
    "int d12(int nNumDice=1);",
  declare 102 "d20" 0 int [int]
    "int d20(int nNumDice=1);",
  declare 103 "d100" 0 int [int]
    "int d100(int nNumDice=1);",
  declare 104 "VectorMagnitude" 1 float [vector]
    "float VectorMagnitude(vector vVector);",
  declare 105 "GetMetaMagicFeat" 0 int []
    "int GetMetaMagicFeat();",
  declare 106 "GetObjectType" 1 int [object]
    "int GetObjectType(object oTarget);",
  declare 107 "GetRacialType" 1 int [object]
    "int GetRacialType(object oCreature);",
  declare 108 "FortitudeSave" 2 int [object, int, int, object]
    "int FortitudeSave(object oCreature, int nDC, int nSaveType=SAVING_THROW_TYPE_NONE, object oSaveVersus=OBJECT_SELF);",
  declare 109 "ReflexSave" 2 int [object, int, int, object]
    "int ReflexSave(object oCreature, int nDC, int nSaveType=SAVING_THROW_TYPE_NONE, object oSaveVersus=OBJECT_SELF);",
  declare 110 "WillSave" 2 int [object, int, int, object]
    "int WillSave(object oCreature, int nDC, int nSaveType=SAVING_THROW_TYPE_NONE, object oSaveVersus=OBJECT_SELF);",
  declare 111 "GetSpellSaveDC" 0 int []
    "int GetSpellSaveDC();",
  declare 112 "MagicalEffect" 1 effect [effect]
    "effect MagicalEffect(effect eEffect);",
  declare 113 "SupernaturalEffect" 1 effect [effect]
    "effect SupernaturalEffect(effect eEffect);",
  declare 114 "ExtraordinaryEffect" 1 effect [effect]
    "effect ExtraordinaryEffect(effect eEffect);",
  declare 115 "EffectACIncrease" 1 effect [int, int, int]
    "effect EffectACIncrease(int nValue, int nModifyType=AC_DODGE_BONUS, int nDamageType=AC_VS_DAMAGE_TYPE_ALL);",
  declare 116 "GetAC" 1 int [object, int]
    "int GetAC(object oObject, int nForFutureUse=0);",
  declare 117 "EffectSavingThrowIncrease" 2 effect [int, int, int]
    "effect EffectSavingThrowIncrease(int nSave, int nValue, int nSaveType=SAVING_THROW_TYPE_ALL);",
  declare 118 "EffectAttackIncrease" 1 effect [int, int]
    "effect EffectAttackIncrease(int nBonus, int nModifierType=ATTACK_BONUS_MISC);",
  declare 119 "EffectDamageReduction" 2 effect [int, int, int]
    "effect EffectDamageReduction(int nAmount, int nDamagePower, int nLimit=0);",
  declare 120 "EffectDamageIncrease" 1 effect [int, int]
    "effect EffectDamageIncrease(int nBonus, int nDamageType=DAMAGE_TYPE_MAGICAL);",
  declare 121 "RoundsToSeconds" 1 float [int]
    "float RoundsToSeconds(int nRounds);",
  declare 122 "HoursToSeconds" 1 float [int]
    "float HoursToSeconds(int nHours);",
  declare 123 "TurnsToSeconds" 1 float [int]
    "float TurnsToSeconds(int nTurns);",
  declare 124 "GetLawChaosValue" 1 int [object]
    "int GetLawChaosValue(object oCreature);",
  declare 125 "GetGoodEvilValue" 1 int [object]
    "int GetGoodEvilValue(object oCreature);",
  declare 126 "GetAlignmentLawChaos" 1 int [object]
    "int GetAlignmentLawChaos(object oCreature);",
  declare 127 "GetAlignmentGoodEvil" 1 int [object]
    "int GetAlignmentGoodEvil(object oCreature);",
  declare 128 "GetFirstObjectInShape" 3 object [int, float, location, int, int, vector]
    "object GetFirstObjectInShape(int nShape, float fSize, location lTarget, int bLineOfSight=FALSE, int nObjectFilter=OBJECT_TYPE_CREATURE, vector vOrigin=[0.0,0.0,0.0]);",
  declare 129 "GetNextObjectInShape" 3 object [int, float, location, int, int, vector]
    "object GetNextObjectInShape(int nShape, float fSize, location lTarget, int bLineOfSight=FALSE, int nObjectFilter=OBJECT_TYPE_CREATURE, vector vOrigin=[0.0,0.0,0.0]);",
  declare 130 "EffectEntangle" 0 effect []
    "effect EffectEntangle();",
  declare 131 "SignalEvent" 2 void [object, event]
    "void SignalEvent(object oObject, event evToRun);",
  declare 132 "EventUserDefined" 1 event [int]
    "event EventUserDefined(int nUserDefinedEventNumber);",
  declare 133 "EffectDeath" 0 effect [int, int]
    "effect EffectDeath(int nSpectacularDeath=FALSE, int nDisplayFeedback=TRUE);",
  declare 134 "EffectKnockdown" 0 effect []
    "effect EffectKnockdown();",
  declare 135 "ActionGiveItem" 2 void [object, object]
    "void ActionGiveItem(object oItem, object oGiveTo);",
  declare 136 "ActionTakeItem" 2 void [object, object]
    "void ActionTakeItem(object oItem, object oTakeFrom);",
  declare 137 "VectorNormalize" 1 vector [vector]
    "vector VectorNormalize(vector vVector);",
  declare 138 "EffectCurse" 0 effect [int, int, int, int, int, int]
    "effect EffectCurse(int nStrMod=1, int nDexMod=1, int nConMod=1, int nIntMod=1, int nWisMod=1, int nChaMod=1);",
  declare 139 "GetAbilityScore" 2 int [object, int, int]
    "int GetAbilityScore(object oCreature, int nAbilityType, int nBaseAbilityScore=FALSE);",
  declare 140 "GetIsDead" 1 int [object]
    "int GetIsDead(object oCreature);",
  declare 141 "PrintVector" 2 void [vector, int]
    "void PrintVector(vector vVector, int bPrepend);",
  declare 142 "Vector" 0 vector [float, float, float]
    "vector Vector(float x=0.0f, float y=0.0f, float z=0.0f);",
  declare 143 "SetFacingPoint" 1 void [vector]
    "void SetFacingPoint(vector vTarget);",
  declare 144 "AngleToVector" 1 vector [float]
    "vector AngleToVector(float fAngle);",
  declare 145 "VectorToAngle" 1 float [vector]
    "float VectorToAngle(vector vVector);",
  declare 146 "TouchAttackMelee" 1 int [object, int]
    "int TouchAttackMelee(object oTarget, int bDisplayFeedback=TRUE);",
  declare 147 "TouchAttackRanged" 1 int [object, int]
    "int TouchAttackRanged(object oTarget, int bDisplayFeedback=TRUE);",
  declare 148 "EffectParalyze" 0 effect []
    "effect EffectParalyze();",
  declare 149 "EffectSpellImmunity" 0 effect [int]
    "effect EffectSpellImmunity(int nImmunityToSpell=SPELL_ALL_SPELLS);",
  declare 150 "EffectDeaf" 0 effect []
    "effect EffectDeaf();",
  declare 151 "GetDistanceBetween" 2 float [object, object]
    "float GetDistanceBetween(object oObjectA, object oObjectB);",
  declare 152 "SetLocalLocation" 3 void [object, string, location]
    "void SetLocalLocation(object oObject, string sVarName, location lValue);",
  declare 153 "GetLocalLocation" 2 location [object, string]
    "location GetLocalLocation(object oObject, string sVarName);",
  declare 154 "EffectSleep" 0 effect []
    "effect EffectSleep();",
  declare 155 "GetItemInSlot" 1 object [int, object]
    "object GetItemInSlot(int nInventorySlot, object oCreature=OBJECT_SELF);",
  declare 156 "EffectCharmed" 0 effect []
    "effect EffectCharmed();",
  declare 157 "EffectConfused" 0 effect []
    "effect EffectConfused();",
  declare 158 "EffectFrightened" 0 effect []
    "effect EffectFrightened();",
  declare 159 "EffectDominated" 0 effect []
    "effect EffectDominated();",
  declare 160 "EffectDazed" 0 effect []
    "effect EffectDazed();",
  declare 161 "EffectStunned" 0 effect []
    "effect EffectStunned();",
  declare 162 "SetCommandable" 1 void [int, object]
    "void SetCommandable(int bCommandable, object oTarget=OBJECT_SELF);",
  declare 163 "GetCommandable" 0 int [object]
    "int GetCommandable(object oTarget=OBJECT_SELF);",
  declare 164 "EffectRegenerate" 2 effect [int, float]
    "effect EffectRegenerate(int nAmount, float fIntervalSeconds);",
  declare 165 "EffectMovementSpeedIncrease" 1 effect [int]
    "effect EffectMovementSpeedIncrease(int nPercentChange);",
  declare 166 "GetHitDice" 1 int [object]
    "int GetHitDice(object oCreature);",
  declare 167 "ActionForceFollowObject" 1 void [object, float]
    "void ActionForceFollowObject(object oFollow, float fFollowDistance=0.0f);",
  declare 168 "GetTag" 1 string [object]
    "string GetTag(object oObject);",
  declare 169 "ResistSpell" 2 int [object, object]
    "int ResistSpell(object oCaster, object oTarget);",
  declare 170 "GetEffectType" 1 int [effect]
    "int GetEffectType(effect eEffect);",
  declare 171 "EffectAreaOfEffect" 1 effect [int, string, string, string]
    "effect EffectAreaOfEffect(int nAreaEffectId, string sOnEnterScript=\"\", string sHeartbeatScript=\"\", string sOnExitScript=\"\");",
  declare 172 "GetFactionEqual" 1 int [object, object]
    "int GetFactionEqual(object oFirstObject, object oSecondObject=OBJECT_SELF);",
  declare 173 "ChangeFaction" 2 void [object, object]
    "void ChangeFaction(object oObjectToChangeFaction, object oMemberOfFactionToJoin);",
  declare 174 "GetIsListening" 1 int [object]
    "int GetIsListening(object oObject);",
  declare 175 "SetListening" 2 void [object, int]
    "void SetListening(object oObject, int bValue);",
  declare 176 "SetListenPattern" 2 void [object, string, int]
    "void SetListenPattern(object oObject, string sPattern, int nNumber=0);",
  declare 177 "TestStringAgainstPattern" 2 int [string, string]
    "int TestStringAgainstPattern(string sPattern, string sStringToTest);",
  declare 178 "GetMatchedSubstring" 1 string [int]
    "string GetMatchedSubstring(int nString);",
  declare 179 "GetMatchedSubstringsCount" 0 int []
    "int GetMatchedSubstringsCount();",
  declare 180 "EffectVisualEffect" 1 effect [int, int]
    "effect EffectVisualEffect(int nVisualEffectId, int nMissEffect=FALSE);",
  declare 181 "GetFactionWeakestMember" 0 object [object, int]
    "object GetFactionWeakestMember(object oFactionMember=OBJECT_SELF, int bMustBeVisible=TRUE);",
  declare 182 "GetFactionStrongestMember" 0 object [object, int]
    "object GetFactionStrongestMember(object oFactionMember=OBJECT_SELF, int bMustBeVisible=TRUE);",
  declare 183 "GetFactionMostDamagedMember" 0 object [object, int]
    "object GetFactionMostDamagedMember(object oFactionMember=OBJECT_SELF, int bMustBeVisible=TRUE);",
  declare 184 "GetFactionLeastDamagedMember" 0 object [object, int]
    "object GetFactionLeastDamagedMember(object oFactionMember=OBJECT_SELF, int bMustBeVisible=TRUE);",
  declare 185 "GetFactionGold" 1 int [object]
    "int GetFactionGold(object oFactionMember);",
  declare 186 "GetFactionAverageReputation" 2 int [object, object]
    "int GetFactionAverageReputation(object oSourceFactionMember, object oTarget);",
  declare 187 "GetFactionAverageGoodEvilAlignment" 1 int [object]
    "int GetFactionAverageGoodEvilAlignment(object oFactionMember);",
  declare 188 "GetFactionAverageLawChaosAlignment" 1 int [object]
    "int GetFactionAverageLawChaosAlignment(object oFactionMember);",
  declare 189 "GetFactionAverageLevel" 1 int [object]
    "int GetFactionAverageLevel(object oFactionMember);",
  declare 190 "GetFactionAverageXP" 1 int [object]
    "int GetFactionAverageXP(object oFactionMember);",
  declare 191 "GetFactionMostFrequentClass" 1 int [object]
    "int GetFactionMostFrequentClass(object oFactionMember);",
  declare 192 "GetFactionWorstAC" 0 object [object, int]
    "object GetFactionWorstAC(object oFactionMember=OBJECT_SELF, int bMustBeVisible=TRUE);",
  declare 193 "GetFactionBestAC" 0 object [object, int]
    "object GetFactionBestAC(object oFactionMember=OBJECT_SELF, int bMustBeVisible=TRUE);",
  declare 194 "ActionSit" 1 void [object]
    "void ActionSit(object oChair);",
  declare 195 "GetListenPatternNumber" 0 int []
    "int GetListenPatternNumber();",
  declare 196 "ActionJumpToObject" 1 void [object, int]
    "void ActionJumpToObject(object oToJumpTo, int bWalkStraightLineToPoint=TRUE);",
  declare 197 "GetWaypointByTag" 1 object [string]
    "object GetWaypointByTag(string sWaypointTag);",
  declare 198 "GetTransitionTarget" 1 object [object]
    "object GetTransitionTarget(object oTransition);",
  declare 199 "EffectLinkEffects" 2 effect [effect, effect]
    "effect EffectLinkEffects(effect eChildEffect, effect eParentEffect);",
  declare 200 "GetObjectByTag" 1 object [string, int]
    "object GetObjectByTag(string sTag, int nNth=0);",
  declare 201 "AdjustAlignment" 3 void [object, int, int, int]
    "void AdjustAlignment(object oSubject, int nAlignment, int nShift, int bAllPartyMembers=TRUE);",
  declare 202 "ActionWait" 1 void [float]
    "void ActionWait(float fSeconds);",
  declare 203 "SetAreaTransitionBMP" 1 void [int, string]
    "void SetAreaTransitionBMP(int nPredefinedAreaTransition, string sCustomAreaTransitionBMP=\"\");",
  declare 204 "ActionStartConversation" 1 void [object, string, int, int]
    "void ActionStartConversation(object oObjectToConverseWith, string sDialogResRef=\"\", int bPrivateConversation=FALSE, int bPlayHello=TRUE);",
  declare 205 "ActionPauseConversation" 0 void []
    "void ActionPauseConversation();",
  declare 206 "ActionResumeConversation" 0 void []
    "void ActionResumeConversation();",
  declare 207 "EffectBeam" 3 effect [int, object, int, int]
    "effect EffectBeam(int nBeamVisualEffect, object oEffector, int nBodyPart, int bMissEffect=FALSE);",
  declare 208 "GetReputation" 2 int [object, object]
    "int GetReputation(object oSource, object oTarget);",
  declare 209 "AdjustReputation" 3 void [object, object, int]
    "void AdjustReputation(object oTarget, object oSourceFactionMember, int nAdjustment);",
  declare 210 "GetSittingCreature" 1 object [object]
    "object GetSittingCreature(object oChair);",
  declare 211 "GetGoingToBeAttackedBy" 1 object [object]
    "object GetGoingToBeAttackedBy(object oTarget);"]

end EngineActions.Shipped
